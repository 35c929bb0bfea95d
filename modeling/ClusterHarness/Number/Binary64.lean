/-!
Double-precision numbers, exactly. A finite number is its sign, its biased exponent and its fraction,
so each value has one form, the two zeros apart. Arithmetic is done on fractions of natural numbers
and rounded once, to the nearest number and on a tie to the even one.
-/

namespace ClusterHarness

inductive Binary64 where
  | finite (negative : Bool) (biased : Fin 2047) (fraction : Fin 0x10000000000000)
  | infinite (negative : Bool)
  | nan
  deriving DecidableEq, Repr

namespace Binary64

def hidden : Nat := 0x10000000000000

/-- The whole number `m` such that the magnitude is `m` times two to the exponent. -/
def mantissa : Binary64 → Nat
  | .finite _ biased fraction => if biased.val = 0 then fraction.val else hidden + fraction.val
  | _ => 0

def exponent : Binary64 → Int
  | .finite _ biased _ => if biased.val = 0 then -1074 else (biased.val : Int) - 1075
  | _ => 0

def isNegative : Binary64 → Bool
  | .finite negative _ _ => negative
  | .infinite negative => negative
  | .nan => false

def zero : Binary64 := .finite false 0 0

def isZero (x : Binary64) : Bool :=
  match x with
  | .finite _ biased fraction => biased.val == 0 && fraction.val == 0
  | _ => false

def isFinite : Binary64 → Bool
  | .finite .. => true
  | _ => false

/-- The order against zero: a negative zero is not below it. -/
def isBelowZero (x : Binary64) : Bool := x.isNegative && !x.isZero

/-- The fraction `num / den` divided by two to the `e`. -/
def scale (num den : Nat) : Int → Nat × Nat
  | .ofNat k => (num, den * Nat.pow 2 k)
  | .negSucc k => (num * Nat.pow 2 (k + 1), den)

def roundHalfEven (num den : Nat) : Nat :=
  let q := num / den
  let r := num % den
  if 2 * r < den then q else if den < 2 * r then q + 1 else q + q % 2

/-- The exponent at which a positive fraction has a mantissa of 53 bits, or the least exponent. -/
def fitExponent (num den : Nat) : Int :=
  let guess : Int := (Nat.log2 num : Int) - Nat.log2 den - 52
  let scaled := scale num den guess
  max (if scaled.1 < scaled.2 * hidden then guess - 1 else guess) (-1074)

/-- The number of a mantissa of at most 53 bits. -/
def ofMantissa (negative : Bool) (m : Nat) (e : Int) : Binary64 :=
  let biased := (e + 1075).toNat
  if h : m < hidden then .finite negative 0 ⟨m, h⟩
  else if hb : biased < 2047 then .finite negative ⟨biased, hb⟩ (Fin.ofNat _ (m - hidden))
  else .infinite negative

/-- The number of a mantissa of at most 53 bits, or the power of two that follows these. -/
def pack (negative : Bool) (m : Nat) (e : Int) : Binary64 :=
  if m = 2 * hidden then ofMantissa negative hidden (e + 1) else ofMantissa negative m e

/-- The number nearest to a fraction with positive denominator. -/
def ofRatio (negative : Bool) (num den : Nat) : Binary64 :=
  if num = 0 then .finite negative 0 0
  else
    let e := fitExponent num den
    let scaled := scale num den e
    pack negative (roundHalfEven scaled.1 scaled.2) e

/-- The number nearest to `digits` times ten to the `exponent`. Far outside the range of exponents the
answer is known without the power of ten. -/
def ofDecimal (negative : Bool) (digits : Nat) (exponent : Int) : Binary64 :=
  if digits = 0 then .finite negative 0 0
  else
    let bits := Nat.log2 digits
    if 400 < (bits * 3 / 10 : Nat) + exponent then .infinite negative
    else if (bits / 3 + 1 : Nat) + exponent < -400 then .finite negative 0 0
    else match exponent with
      | .ofNat k => ofRatio negative (digits * Nat.pow 10 k) 1
      | .negSucc k => ofRatio negative digits (Nat.pow 10 (k + 1))

/-- The number nearest to an integer, none if it is beyond the largest number. -/
def ofInt? (n : Int) : Option Binary64 :=
  let x := ofRatio (n < 0) n.natAbs 1
  if x.isFinite then some x else none

/-- The magnitude of a finite number as a fraction. -/
def ratio (x : Binary64) : Nat × Nat :=
  match x.exponent with
  | .ofNat k => (x.mantissa * Nat.pow 2 k, 1)
  | .negSucc k => (x.mantissa, Nat.pow 2 (k + 1))

/-- The product of finite numbers, rounded once. -/
def mul (x y : Binary64) : Binary64 :=
  let (a, b) := x.ratio
  let (c, d) := y.ratio
  ofRatio (x.isNegative != y.isNegative) (a * c) (b * d)

/-- The whole number that a finite number is, if it is one. -/
def toInt? (x : Binary64) : Option Int :=
  if x.isFinite then
    let (a, b) := x.ratio
    if a % b = 0 then some (if x.isNegative then -((a / b : Nat) : Int) else ((a / b : Nat) : Int)) else none
  else none

/-- The quotient of an integer by a positive one, rounded. -/
def ofQuotient (n : Int) (d : Nat) : Binary64 := ofRatio (n < 0) n.natAbs d

/-- A finite number divided by a positive whole number, rounded. -/
def quotient (x : Binary64) (d : Nat) : Binary64 :=
  let (a, b) := x.ratio
  ofRatio x.isNegative a (b * d)

/-- The greatest whole number that is not above a finite number. -/
def floor (x : Binary64) : Int :=
  let (a, b) := x.ratio
  (if x.isNegative then -(a : Int) else (a : Int)).fdiv b

end Binary64

end ClusterHarness
