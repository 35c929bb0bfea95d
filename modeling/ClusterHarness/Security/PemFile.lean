import ClusterHarness.Text.Base64

/-!
PEM files as a TLS library reads them: line by line, with blocks that begin and end on lines of their
own. An empty line in a block parts a header from the data. A broken block does not keep the ones after
it from being read.
-/

namespace ClusterHarness.PemFile

structure Block where
  label : Text
  /-- The lines above the empty line. -/
  header : List Text
  content : Bytes
  deriving DecidableEq, Repr

/-- Lines are read in pieces of at most so many bytes. -/
def pieceLength : Nat := 254

def lineFeed : CodePoint := CodePoint.ofChar '\n'

/-- The first piece of a text: up to a line feed, or as long as a piece can be. -/
def firstPiece : Nat → Text → Text × Text
  | 0, t => ([], t)
  | _ + 1, [] => ([], [])
  | n + 1, c :: t =>
    if c = lineFeed then ([c], t)
    else
      let (piece, rest) := firstPiece n t
      (c :: piece, rest)

/-- All pieces; each takes at least one byte, and a zero byte hides what follows it. -/
def piecesWithin : Nat → Text → List Text
  | 0, _ => []
  | _ + 1, [] => []
  | budget + 1, c :: t =>
    let (piece, rest) := firstPiece pieceLength (c :: t)
    piece.takeWhile (·.val != 0) :: piecesWithin budget rest

/-- A text with a code point for each byte. -/
def ofBytes (bs : Bytes) : Text := bs.map fun b => Utf8.codePoint b.toNat

def pieces (bs : Bytes) : List Text := piecesWithin bs.length (ofBytes bs)

/-- Whether a piece is only the beginning of a line. -/
def isCut (piece : Text) : Bool := piece.length == pieceLength && piece.getLast? != some lineFeed

/-- A line without the blanks, the controls and the bytes beyond ASCII at its end. -/
def trimmed (piece : Text) : Text := piece.trimEnd fun c => c.val ≤ 32 || 128 ≤ c.val

/-- A mark of the encoding at the head of a file. -/
def encodingMark : Text := [0xEF, 0xBB, 0xBF]

def withoutMark (piece : Text) : Text :=
  match piece.after? encodingMark with
  | some (c :: t) => c :: t
  | _ => piece

def dashes : Text := "-----"

def beginMark : Text := "-----BEGIN "

def endMark : Text := "-----END "

/-- The label of a line that begins a block. -/
def label? (line : Text) : Option Text := do
  let t ← line.after? beginMark
  let before ← Text.after? t.reverse dashes
  return before.reverse

/-- A block that is being read; lines are kept last first. -/
structure Body where
  label : Text
  /-- Whether the last piece was the beginning of a line. -/
  cut : Bool
  /-- Whether a colon was seen before an empty line. -/
  colon : Bool
  /-- Whether an empty line was seen. -/
  parted : Bool
  /-- Whether a line below the empty line was shorter than the others have to be. -/
  short : Bool
  above : List Text
  below : List Text

namespace Body

def start (label : Text) : Body := ⟨label, false, false, false, false, [], []⟩

/-- Lines below an empty line have this length, up to the last, which may be shorter. -/
def width : Nat := 64

/-- The block that ends here; without an empty line all lines are data, unless one has a colon. -/
def finish (b : Body) : Option Block := do
  guard (b.parted ∨ !b.colon)
  let lines := if b.parted then b.below else b.above
  let content ← Base64.decodeLoose? lines.reverse.flatten
  guard (content ≠ [])
  return ⟨b.label, if b.parted then b.above.reverse else [], content⟩

/-- Takes in a line that is not empty and does not end the block. -/
def add (b : Body) (line : Text) : Option Body :=
  if b.short then none
  else if !b.parted then some { b with above := line :: b.above }
  else if width < line.length then none
  else some { b with below := line :: b.below, short := line.length < width }

inductive Step where
  | more (b : Body)
  | block (b : Block)
  | broken

def ofOption : Option Body → Step
  | some b => .more b
  | none => .broken

/-- Takes in a piece. The rest of a long line, if nothing is on it, is no empty line. -/
def step (b : Body) (piece : Text) : Step :=
  let line := trimmed piece
  let colon := b.colon || (!b.parted && piece.elem (CodePoint.ofChar ':'))
  let next := { b with cut := isCut piece, colon := colon }
  if piece.isEmpty then .broken
  else if line.isEmpty then
    if b.cut then .more next else if b.parted then .broken else .more { next with parted := true }
  else if line.startsWith endMark then
    match if line = endMark ++ b.label ++ dashes then next.finish else none with
    | some block => .block block
    | none => .broken
  else ofOption (next.add line)

end Body

inductive State where
  /-- Between blocks; the first line may have a mark of the encoding. -/
  | outside (first : Bool)
  | inside (b : Body)

/-- Reads pieces into blocks, none standing for a broken one. -/
def read : State → List Text → List (Option Block)
  | .outside _, [] => []
  | .inside _, [] => [none]
  | .outside first, piece :: ps =>
    if piece.isEmpty then []
    else match label? (trimmed (if first then withoutMark piece else piece)) with
      | some label => read (.inside (.start label)) ps
      | none => read (.outside false) ps
  | .inside b, piece :: ps =>
    match b.step piece with
    | .more b => read (.inside b) ps
    | .block block => some block :: read (.outside true) ps
    | .broken => none :: read (.outside true) ps

/-- The blocks of a file, none standing for a broken one. -/
def blocks (bs : Bytes) : List (Option Block) := read (.outside true) (pieces bs)

end ClusterHarness.PemFile
