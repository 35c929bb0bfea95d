/-!
Texts as lists of code points.

A JSON string may hold a surrogate that has no partner, which no `Char` and no `String` can be, so a
text is a list of numbers below `0x110000`. Every text of the library has this type; a string literal
stands for its text by coercion.
-/

namespace ClusterHarness

abbrev CodePoint := Fin 0x110000

abbrev Text := List CodePoint

instance CodePoint.neZero_limit : @NeZero Nat Zero.ofOfNat0 0x110000 := ⟨by decide⟩

namespace CodePoint

def ofChar (c : Char) : CodePoint :=
  ⟨c.toNat, by
    have h := c.valid
    simp only [UInt32.isValidChar, Nat.isValidChar] at h
    show c.val.toNat < 0x110000
    omega⟩

instance : Coe Char CodePoint := ⟨ofChar⟩

def isSurrogate (c : CodePoint) : Bool := 0xD800 ≤ c.val && c.val ≤ 0xDFFF

/-- A surrogate is no character. -/
def toChar? (c : CodePoint) : Option Char :=
  if h : Nat.isValidChar c.val then some (Char.ofNatAux c.val h) else none

def doubleQuote : CodePoint := 0x22

def singleQuote : CodePoint := 0x27

def backslash : CodePoint := 0x5C

/-- Membership in a sorted table of inclusive ranges. -/
def inRanges (table : List (Nat × Nat)) (c : CodePoint) : Bool :=
  table.any fun (lo, hi) => lo ≤ c.val && c.val ≤ hi

def isAsciiDigit (c : CodePoint) : Bool := 48 ≤ c.val && c.val ≤ 57

def isAsciiLower (c : CodePoint) : Bool := 97 ≤ c.val && c.val ≤ 122

def isAsciiUpper (c : CodePoint) : Bool := 65 ≤ c.val && c.val ≤ 90

end CodePoint

namespace Text

def ofChars (cs : List Char) : Text := cs.map CodePoint.ofChar

def ofString (s : String) : Text := ofChars s.toList

instance : Coe String Text := ⟨ofString⟩

/-- Refuses a text that holds a surrogate. -/
def toString? (t : Text) : Option String := (t.mapM CodePoint.toChar?).map String.ofList

/-- The text of a natural number in decimal. -/
def ofNat (n : Nat) : Text := ofChars (Nat.toDigits 10 n)

def ofInt (n : Int) : Text :=
  match n with
  | .ofNat k => ofNat k
  | .negSucc k => CodePoint.ofChar '-' :: ofNat (k + 1)

/-- The text without the code points at its end that `p` holds of. -/
def trimEnd (p : CodePoint → Bool) (t : Text) : Text := (t.reverse.dropWhile p).reverse

/-- The text without the code points at both ends that `p` holds of. -/
def trimBy (p : CodePoint → Bool) (t : Text) : Text := trimEnd p (t.dropWhile p)

def startsWith (t lead : Text) : Bool := lead.isPrefixOf t

/-- What follows `lead`, if the text starts with it. -/
def after? (t lead : Text) : Option Text :=
  if t.startsWith lead then some (t.drop lead.length) else none

/-- Whether `part` stands anywhere in the text. -/
def contains : Text → Text → Bool
  | [], part => part.isEmpty
  | c :: t, part => part.isPrefixOf (c :: t) || contains t part

/-- The first piece and the pieces after it, leaving out the first `skip` code points. -/
def splitFrom (mark : Text) : Nat → Text → Text × List Text
  | _, [] => ([], [])
  | skip + 1, _ :: t => splitFrom mark skip t
  | 0, c :: t =>
    if mark.isPrefixOf (c :: t) then
      let (piece, more) := splitFrom mark (mark.length - 1) t
      ([], piece :: more)
    else
      let (piece, more) := splitFrom mark 0 t
      (c :: piece, more)

/-- The pieces between the occurrences of a non-empty mark, found from the left. -/
def splitOn (t mark : Text) : List Text :=
  let (piece, more) := splitFrom mark 0 t
  piece :: more

def join (mark : Text) (ts : List Text) : Text := (ts.intersperse mark).flatten

end Text

end ClusterHarness
