import ClusterHarness.Files.Tree
import ClusterHarness.Time.Interval

/-!
Configuration errors: what is missing or unusable in the runtime configuration of a client.
-/

namespace ClusterHarness

/-- Why a file of trust material cannot be used. -/
inductive TrustCause where
  | opening (e : OpenError)
  /-- A problem of the file system, told without the path. -/
  | system (problem : FileProblem)
  | unsoundContent
  deriving DecidableEq, Repr

def TrustCause.message : TrustCause → Text
  | .opening e => e.message
  | .system problem => problem.message
  | .unsoundContent => "the content is not sound"

inductive ConfigurationError where
  | clusterMissing
  | userMissing
  | passwordMissing
  | malformedInterval (setting : Text) (value : Option Text)
  | negativeInterval (setting value : Text)
  | certificateFile (path : Path) (cause : TrustCause)
  | noCertificate (path : Path)
  | expired (subject : Text) (path : Path)
  | clientCertificate (path : Path) (cause : TrustCause)
  deriving DecidableEq, Repr

namespace ConfigurationError

/-- The cause that the error has, if it comes from trust material. -/
def cause? : ConfigurationError → Option TrustCause
  | .certificateFile _ cause => some cause
  | .clientCertificate _ cause => some cause
  | _ => none

/-- The message with the given words for the cause. -/
def messageBecause (cause : Text) : ConfigurationError → Text
  | .clusterMissing => "cluster url should be provided for security enabled testing"
  | .userMissing => "user name is missing"
  | .passwordMissing => "password is missing"
  | .malformedInterval setting value => (Time.IntervalError.malformed setting value).message
  | .negativeInterval setting value => (Time.IntervalError.negative setting value).message
  | .certificateFile path _ => "Invalid certificate file " ++ path.toText ++ ": " ++ cause
  | .noCertificate path => "No certificate found in " ++ path.toText
  | .expired subject path => "Certificate " ++ subject ++ " in " ++ path.toText ++ " has expired."
  | .clientCertificate path _ => "Cannot load client certificate " ++ path.toText ++ ": " ++ cause

def message (e : ConfigurationError) : Text := e.messageBecause ((e.cause?.map TrustCause.message).getD [])

end ConfigurationError

end ClusterHarness
