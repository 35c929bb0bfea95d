import ClusterHarness.Text.Digit

/-!
Whole numbers written in decimal digits of any script.
-/

namespace ClusterHarness

/-- A sign and decimal digits. -/
structure Numeral where
  negative : Bool
  digits : List Nat
  deriving DecidableEq, Repr

/-- The integers of 64 bits with a sign. -/
def isLong (n : Int) : Bool := -0x8000000000000000 ≤ n && n < 0x8000000000000000

namespace Numeral

/-- The most digits that are turned into a number. -/
def maxDigits : Nat := 4300

def magnitude (digits : List Nat) : Nat := digits.foldl (fun n d => 10 * n + d) 0

def value (n : Numeral) : Int := if n.negative then -(magnitude n.digits : Int) else magnitude n.digits

def tooLong (n : Numeral) : Bool := maxDigits < n.digits.length

/-- The digits at the head of a text, and what follows. -/
def leadingDigits : Text → List Nat × Text
  | [] => ([], [])
  | c :: t =>
    match c.digitValue? with
    | some d =>
      let (ds, rest) := leadingDigits t
      (d :: ds, rest)
    | none => ([], c :: t)

/-- An optional sign and at least one digit; one line feed may end the text. -/
def ofText? (t : Text) : Option Numeral :=
  let (negative, unsigned) : Bool × Text := match t with
    | [] => (false, [])
    | c :: s =>
      if c = CodePoint.ofChar '-' then (true, s)
      else if c = CodePoint.ofChar '+' then (false, s)
      else (false, c :: s)
  let (digits, rest) := leadingDigits unsigned
  if digits ≠ [] ∧ (rest = [] ∨ rest = [10]) then some ⟨negative, digits⟩ else none

end Numeral

end ClusterHarness
