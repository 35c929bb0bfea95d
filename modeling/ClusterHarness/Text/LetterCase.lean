import ClusterHarness.Text.LetterCaseTable

/-!
Upper and lower case of texts in any script, in which HTTP methods are sent and header names compared.
Each code point is mapped on its own, to one or several others, but for the capital sigma, which has a
second small form for the end of a word.
-/

namespace ClusterHarness

namespace LetterCase

/-- The other case of a code point, by runs and by the sequences that are not one code point. -/
def mapped (runs : List (Nat × Nat × Nat × Int)) (sequences : List (Nat × List Nat)) (c : CodePoint) :
    Text :=
  match sequences.find? fun s => s.1 = c.val with
  | some (_, ns) => ns.map (Fin.ofNat 0x110000)
  | none =>
    match runs.find? fun (lo, hi, step, _) => lo ≤ c.val && c.val ≤ hi && (c.val - lo) % step == 0 with
    | some (_, _, _, distance) => [Fin.ofNat 0x110000 (c.val + distance).toNat]
    | none => [c]

def isIgnorable (c : CodePoint) : Bool := c.inRanges ignorableRanges

def isCased (c : CodePoint) : Bool := c.inRanges casedRanges

def capitalSigma : CodePoint := 0x3A3

def smallSigma : CodePoint := 0x3C3

def finalSigma : CodePoint := 0x3C2

/-- Whether the first code point that counts is a letter with a case. -/
def meetsLetter (t : Text) : Bool := (t.dropWhile isIgnorable).head?.any isCased

/-- The lower case of a text that follows the given one, which is read backwards. -/
def lowerAfter (before : Text) : Text → Text
  | [] => []
  | c :: t =>
    let small : Text :=
      if c = capitalSigma then [if meetsLetter before && !meetsLetter t then finalSigma else smallSigma]
      else mapped lowerRuns lowerSequences c
    small ++ lowerAfter (c :: before) t

end LetterCase

namespace Text

def upperCase (t : Text) : Text :=
  t.flatMap (LetterCase.mapped LetterCase.upperRuns LetterCase.upperSequences)

def lowerCase (t : Text) : Text := LetterCase.lowerAfter [] t

/-- Whether two names are one in lower case. -/
def sameName (s t : Text) : Bool := s.lowerCase == t.lowerCase

theorem sameName_iff {s t : Text} : sameName s t ↔ s.lowerCase = t.lowerCase := beq_iff_eq

end Text

end ClusterHarness
