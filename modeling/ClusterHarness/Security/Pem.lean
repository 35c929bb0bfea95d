import ClusterHarness.Text.Base64
import ClusterHarness.Text.Blank

/-!
PEM texts: blocks of base64 between a line that begins and a line that ends them, both naming the kind
of content, wherever they stand in a text. A chain is split at the ends of its certificates.
-/

namespace ClusterHarness.Pem

def endOfCertificate : Text := "-----END CERTIFICATE-----"

/-- The certificates of a chain, each with its end; white space around them is left out. -/
def splitChain (content : Text) : List Text :=
  (((content.splitOn endOfCertificate).map Text.trim).filter (!·.isEmpty)).map
    fun part => part ++ CodePoint.ofChar '\n' :: endOfCertificate

structure Block where
  label : Text
  content : Bytes
  deriving DecidableEq, Repr

def beginMark : Text := "-----BEGIN "

def endMark : Text := "-----END "

def dashes : Text := "-----"

/-- Goes through a text until the rest of a mark has been seen, and parts it there. A code point that breaks
off a mark does not start another. -/
def cutFrom (mark : Text) : Text → Text → Option (Text × Text)
  | [], t => some ([], t)
  | _ :: _, [] => none
  | m :: ms, c :: t => (cutFrom mark (if c = m then ms else mark) t).map fun (before, rest) => (c :: before, rest)

/-- The text before a mark and the text after it. -/
def cut? (mark t : Text) : Option (Text × Text) :=
  (cutFrom mark mark t).map fun (seen, rest) => (seen.take (seen.length - mark.length), rest)

def isSpace (c : CodePoint) : Bool := c.val == 32 || c.val == 9 || c.val == 10 || c.val == 13

/-- The labels at both ends and the body between them. -/
structure Frame where
  opening : Text
  body : Text
  closing : Text

def frame? (t : Text) : Option (Frame × Text) := do
  let (_, t) ← cut? beginMark t
  let (opening, t) ← cut? dashes t
  let (body, t) ← cut? endMark (t.dropWhile isSpace)
  let (closing, t) ← cut? dashes t
  return (⟨opening, body, closing⟩, t.dropWhile isSpace)

/-- The frames of a text from left to right; a frame takes at least a mark. -/
def framesWithin : Nat → Text → List Frame
  | 0, _ => []
  | budget + 1, t =>
    match frame? t with
    | some (f, rest) => f :: framesWithin budget rest
    | none => []

def frames (t : Text) : List Frame := framesWithin t.length t

def lines (t : Text) : List Text :=
  let ls := (t.splitOn [10]).map fun l => if l.getLast? = some 13 then l.dropLast else l
  if ls.getLast? = some [] then ls.dropLast else ls

/-- The headers and the data of a body, which an empty line parts. -/
def headersAndData (body : Text) : Text × Text :=
  match cut? [10, 10] body with
  | some r => r
  | none =>
    match cut? [13, 10, 13, 10] body with
    | some r => r
    | none => ([], body)

def isHeader (line : Text) : Bool := line.elem (CodePoint.ofChar ':')

/-- Decodes a frame whose labels agree and whose headers have a name. -/
def Frame.block? (f : Frame) : Option Block := do
  guard (!f.opening.isEmpty && f.opening == f.closing)
  let (headers, data) := headersAndData f.body
  guard ((lines headers).all isHeader)
  let content ← Base64.decode? (data.filter (!·.isNarrowBlank))
  return ⟨f.opening, content⟩

/-- All blocks of a text, none if one of them is broken. -/
def blocks? (t : Text) : Option (List Block) := (frames t).mapM Frame.block?

end ClusterHarness.Pem
