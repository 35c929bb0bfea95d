import ClusterHarness.Json.Reader
import ClusterHarness.Text.LetterCase
import ClusterHarness.Text.Utf8
import ClusterHarness.Time.Pause

/-!
HTTP messages: the calls that a client makes, and what comes back, which is a response or a fault of
the connection.
-/

namespace ClusterHarness.Http

open Time

inductive Body where
  | text (t : Text)
  | bytes (bs : Bytes)
  deriving DecidableEq, Repr

/-- One call, as it is handed to the connection. -/
structure Call where
  method : Text
  url : Text
  params : Option Json
  headers : Fields Text
  timeout : Option Seconds
  body : Option Body
  /-- Certificates are accepted unchecked. -/
  unverified : Bool

/-- A character set that gives no text for a body, not even with replacement characters. -/
structure DecodingFault where
  message : Text
  deriving DecidableEq, Repr

/-- A response. How its body is decoded is left to the HTTP library, which goes by the character set that the
headers declare, or else by a guess. -/
structure Response where
  status : Int
  body : Bytes
  /-- What a body with something in it is decoded to. -/
  decoded : Except DecodingFault Text
  /-- What such a body is decoded to if no character set is declared and its first bytes give a Unicode
  encoding away. Documents are read from this text first of all. -/
  sniffed : Option Text
  headers : Fields Text
  /-- Only the values of a name joined together are offered. -/
  joinedHeaders : Bool
  deriving Repr

/-- Why a body gives no document. -/
inductive BodyError where
  | decoding (fault : DecodingFault)
  | reading (e : Json.ReadError)
  deriving DecidableEq, Repr

namespace Response

/-- A response whose body is declared to be UTF-8; a defect in it becomes a replacement character. -/
def utf8 (status : Int) (body : Bytes) (headers : Fields Text) (joinedHeaders : Bool) : Response :=
  ⟨status, body, .ok (Utf8.decodeLenient body), none, headers, joinedHeaders⟩

/-- All but the client and server errors. -/
def isOk (r : Response) : Bool := !(400 ≤ r.status && r.status < 600)

def text (r : Response) : Except DecodingFault Text := if r.body.isEmpty then .ok [] else r.decoded

/-- The text of a body with something in it from which a document is read. -/
def documentText (r : Response) : Except DecodingFault Text :=
  match r.sniffed with
  | some t => .ok t
  | none => r.decoded

def warningHeader : Text := "Warning"

/-- The values of a header, its name in any letter case. -/
def headerValues (name : Text) (r : Response) : List Text :=
  (r.headers.filter fun h => Text.sameName h.1 name).map Prod.snd

/-- The warnings in order; joined ones are a single warning, and no text is no warning. -/
def warnings (r : Response) : List Text :=
  let values := r.headerValues warningHeader
  if r.joinedHeaders then
    let joined := Text.join ", " values
    if joined.isEmpty then [] else [joined]
  else values

/-- The document of the body; an empty body is an empty object. -/
def json (r : Response) : Except BodyError Json :=
  if r.body.isEmpty then .ok (.obj [])
  else do
    let t ← r.documentText.mapError .decoding
    (Json.read .document t).mapError .reading

end Response

/-- Faults of a connection, the last one being the end of what the far side has to say. -/
inductive Fault where
  | connection
  | ssl
  | proxy
  | connectTimeout
  | timeout
  | readTimeout
  | chunkedEncoding
  | tooManyRedirects
  | invalidUrl
  | contentDecoding
  | retry
  | invalidHeader
  | request
  | http
  | missingSchema
  | streamConsumed
  | silence
  deriving DecidableEq, Repr

namespace Fault

/-- The host could not be reached, so that another one may be tried. -/
def isUnreachable : Fault → Bool
  | .connection | .ssl | .proxy | .connectTimeout => true
  | _ => false

/-- The host was reached and did not answer in time. A host that is not reached in time is
unreachable first of all. -/
def isTimeout : Fault → Bool
  | .connectTimeout | .timeout | .readTimeout => true
  | _ => false

end Fault

inductive Outcome where
  | response (r : Response)
  | fault (f : Fault) (message : Text)
  deriving Repr

inductive Level where
  | debug
  | info
  | warning
  | error
  deriving DecidableEq, Repr

/-- What can be seen of a client at work. -/
inductive Event where
  | call (c : Call)
  | sleep (s : Seconds)
  | log (level : Level) (message : Text)
  | close

end ClusterHarness.Http
