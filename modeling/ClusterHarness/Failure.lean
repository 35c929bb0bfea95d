import ClusterHarness.Cluster.IndexListing
import ClusterHarness.Fixture
import ClusterHarness.Http.Error
import ClusterHarness.Http.Message
import ClusterHarness.Ingestion.Error
import ClusterHarness.Settings.Bootstrap

/-!
Failures: everything that can end an operation of the harness. The harness has errors of its own, which
form a hierarchy; the others are refusals of the parts it is made of.
-/

namespace ClusterHarness

open Time

/-- The kinds of the harness's own errors. -/
inductive ErrorKind where
  | base
  | configuration
  | fixture
  | ingest
  | ingestTimeout
  | http
  | deprecation
  deriving DecidableEq, Repr

namespace ErrorKind

/-- The kind and the more general ones above it. -/
def lineage : ErrorKind → List ErrorKind
  | .base => [.base]
  | .ingestTimeout => [.ingestTimeout, .ingest, .base]
  | .deprecation => [.deprecation, .http, .base]
  | kind => [kind, .base]

end ErrorKind

inductive Failure where
  | configuration (e : ConfigurationError)
  | fixture (e : FixtureError)
  | ingest (e : IngestError)
  | ingestTimeout (count : Int) (dataset : Text)
  | http (e : HttpError)
  | deprecation (warnings : List Text) (code : Option Int)
  | connection (f : Http.Fault) (message : Text)
  | invalid (issues : List Validation.Issue)
  | dump (e : Validation.DumpError)
  | shape (e : ShapeError)
  | document (e : Json.ReadError)
  | undecodable (fault : Http.DecodingFault)
  | timestamp (e : TimestampError)
  | format (e : FormatError)
  | shift (e : ShiftError)
  | interval (e : IntervalError)
  | pause (e : PauseError)
  | opening (e : OpenError)
  | authorities (fault : AuthorityFault)
  | certificate (e : CertificateError)
  | listing (response : Json)
  | negativeLimit (limit : Int)
  /-- A request without a method or an endpoint. -/
  | noTarget
  /-- A whole number that no floating number is near. -/
  | numberTooLarge
  /-- A value that names no outcome of waiting. -/
  | outcome (v : Json)
  /-- An error that a test body raised. -/
  | raised (message : Text)

namespace Failure

def ofBody : Http.BodyError → Failure
  | .decoding fault => .undecodable fault
  | .reading e => .document e

def ofRecords : RecordsError → Failure
  | .fixture e => .fixture e
  | .negativeLimit limit => .negativeLimit limit
  | .path fault => .opening (.path fault)
  | .tooManyDigits count => .document (.tooManyDigits count)
  | .tooDeep => .document .tooDeep

def ofInterval (e : IntervalError) : Failure :=
  match RuntimeFlags.intervalError e with
  | .configuration e => .configuration e
  | _ => .interval e

def ofSettings : SettingsError → Failure
  | .configuration e => .configuration e
  | .opening e => .opening e
  | .interval e => .interval e
  | .invalid issues => .invalid issues

def ofTrust : TrustError → Failure
  | .configuration e => .configuration e
  | .certificate e => .certificate e

def ofTls : TlsError → Failure
  | .trust e => ofTrust e
  | .authorities fault => .authorities fault
  | .keyPath fault => .opening (.path fault)

def ofListing : ListingError → Failure
  | .unexpected v => .listing v
  | .invalid issues => .invalid issues

def ofModel : Validation.ModelError → Failure
  | .invalid issues => .invalid issues
  | .noFields => .shape .notACollection

def ofReformat : ReformatError → Failure
  | .timestamp e => .timestamp e
  | .shift e => .shift e
  | .format e => .format e

def shiftMessage : ShiftError → Text
  | .outsideCalendar => TimestampError.beyondCalendar.message
  | .tooManyDays days =>
    if days.natAbs < 0x80000000 then "days=" ++ Text.ofInt days ++ "; must have magnitude <= 999999999"
    else "Python int too large to convert to C int"

def formatMessage : FormatError → Text
  | .noOffset => "can't subtract offset-naive and offset-aware datetimes"
  | .beyondCalendar => TimestampError.beyondCalendar.message
  | .tooManyDigits limit => limit.message

def message : Failure → Text
  | .configuration e => e.message
  | .fixture e => e.message
  | .ingest e => e.message
  | .ingestTimeout count dataset =>
    Text.ofInt count ++ " documents of " ++ dataset ++ " not visible after ingestion."
  | .http e => e.message
  | .deprecation warnings code => (HttpError.ofWarnings warnings code).message
  | .connection _ message => message
  | .invalid _ => "The settings are not valid"
  | .dump e => e.message
  | .shape _ => "The document has another shape"
  | .document e => e.message
  | .undecodable fault => fault.message
  | .timestamp e => e.message
  | .format e => formatMessage e
  | .shift e => shiftMessage e
  | .interval e => e.message
  | .pause e => e.message
  | .opening e => e.message
  | .authorities fault => fault.message
  | .certificate e => e.message
  | .listing v => (ListingError.unexpected v).message
  | .negativeLimit limit => (RecordsError.negativeLimit limit).message
  | .noTarget => "endpoint or method missing"
  | .numberTooLarge => IntervalError.tooLarge.message
  | .outcome v => v.literal ++ " is not a valid PollOutcome"
  | .raised message => message

end Failure

end ClusterHarness
