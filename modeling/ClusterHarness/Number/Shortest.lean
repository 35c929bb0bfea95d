import ClusterHarness.Number.Binary64
import ClusterHarness.Text.Basic

/-!
The shortest decimal text of a number: the fewest digits that read back as the number, of these the
nearest to it, and on a tie the even ones. The text is positional from one ten-thousandth up to ten to
the sixteen, with a fraction always, and has an exponent of at least two digits elsewhere.
-/

namespace ClusterHarness

/-- Decimal digits as a whole number, times ten to the exponent. -/
structure Decimal where
  digits : Nat
  exponent : Int
  deriving DecidableEq, Repr

namespace Decimal

def toBinary64 (negative : Bool) (d : Decimal) : Binary64 :=
  Binary64.ofDecimal negative d.digits d.exponent

/-- The number of decimal digits. -/
def width (n : Nat) : Nat := (Nat.toDigits 10 n).length

/-- The fraction `num / den` divided by ten to the `e`. -/
def scale (num den : Nat) : Int → Nat × Nat
  | .ofNat k => (num, den * Nat.pow 10 k)
  | .negSucc k => (num * Nat.pow 10 (k + 1), den)

/-- The exponent `p` such that a positive fraction is at least ten to the `p - 1` and below ten to
the `p`. -/
def pointPosition (num den : Nat) : Int :=
  if den ≤ num then (width (num / den) : Int)
  else
    let p : Int := 1 - (width (den / num) : Int)
    let (n, d) := scale num den p
    if d ≤ n then p + 1 else p

/-- The neighbours of a fraction on the grid of the multiples of ten to the `e`, nearest first. -/
def neighbours (num den : Nat) (e : Int) : List Decimal :=
  let (n, d) := scale num den e
  let q := n / d
  let r := n % d
  if r = 0 then [⟨q, e⟩]
  else if 2 * r < d ∨ (2 * r = d ∧ q % 2 = 0) then [⟨q, e⟩, ⟨q + 1, e⟩]
  else [⟨q + 1, e⟩, ⟨q, e⟩]

/-- The first of the finer and finer grids with a neighbour that reads back as `x`. -/
def search (x : Binary64) (num den : Nat) (position : Int) : Nat → Nat → Option Decimal
  | 0, _ => none
  | left + 1, count =>
    match (neighbours num den (position - count)).find? (·.toBinary64 x.isNegative = x) with
    | some d => some d
    | none => search x num den position left (count + 1)

/-- All digits of a finite number. -/
def exact (x : Binary64) : Decimal :=
  match x.exponent with
  | .ofNat k => ⟨x.mantissa * Nat.pow 2 k, 0⟩
  | .negSucc k => ⟨x.mantissa * Nat.pow 5 (k + 1), .negSucc k⟩

/-- A zero is the single digit zero, and seventeen digits are enough for every other number. -/
def shortest (x : Binary64) : Decimal :=
  if x.isZero then ⟨0, 0⟩
  else
    let (num, den) := x.ratio
    (search x num den (pointPosition num den) 17 1).getD (exact x)

/-- The digits of a whole number without the zeros at its end. -/
def significant (n : Nat) : List Char :=
  match ((Nat.toDigits 10 n).reverse.dropWhile (· == '0')).reverse with
  | [] => ['0']
  | cs => cs

def zeros (n : Nat) : List Char := List.replicate n '0'

/-- The digits with a point after the first `position` of them. -/
def positional (cs : List Char) (position : Int) : List Char :=
  match position with
  | .ofNat 0 => '0' :: '.' :: cs
  | .ofNat k =>
    let whole := cs.take k ++ zeros (k - cs.length)
    let fraction := cs.drop k
    whole ++ '.' :: (if fraction.isEmpty then ['0'] else fraction)
  | .negSucc k => '0' :: '.' :: (zeros (k + 1) ++ cs)

/-- The digits with a point after the first, and an exponent. -/
def scientific (cs : List Char) (exponent : Int) : List Char :=
  let lead := cs.take 1
  let tail := cs.drop 1
  let power := Nat.toDigits 10 exponent.natAbs
  lead ++ (if tail.isEmpty then [] else '.' :: tail)
    ++ 'e' :: (if exponent < 0 then '-' else '+') :: (zeros (2 - power.length) ++ power)

def layout (d : Decimal) : List Char :=
  let cs := significant d.digits
  let position : Int := if d.digits = 0 then 1 else (width d.digits : Int) + d.exponent
  if -4 < position ∧ position ≤ 16 then positional cs position else scientific cs (position - 1)

end Decimal

/-- The shortest text of a finite number; the spellings of the others are given. -/
def Binary64.render (infinity notANumber : Text) (x : Binary64) : Text :=
  let sign : Text := if x.isNegative then "-" else []
  match x with
  | .nan => notANumber
  | .infinite _ => sign ++ infinity
  | .finite .. => sign ++ Text.ofChars (Decimal.shortest x).layout

/-- The text of a number in messages. -/
def Binary64.text (x : Binary64) : Text := x.render "inf" "nan"

end ClusterHarness
