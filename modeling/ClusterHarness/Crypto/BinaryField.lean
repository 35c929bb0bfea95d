/-!
Arithmetic of polynomials over two elements modulo an irreducible one. The bits of a number are the
coefficients of a polynomial, so that addition is the exclusive or.
-/

namespace ClusterHarness.BinaryField

def add (a b : Nat) : Nat := a ^^^ b

def degree (f : Nat) : Nat := f.log2

/-- The product with the indeterminate. -/
def shift (f a : Nat) : Nat :=
  let twice := a <<< 1
  if twice.testBit (degree f) then twice ^^^ f else twice

/-- Adds to `sum` the products of the multiples of `a` with the low bits of `b`. -/
def mulBits (f : Nat) : Nat → Nat → Nat → Nat → Nat
  | 0, _, _, sum => sum
  | count + 1, a, b, sum => mulBits f count (shift f a) (b / 2) (if b % 2 = 1 then sum ^^^ a else sum)

def mul (f a b : Nat) : Nat := mulBits f (degree f) a b 0

def square (f a : Nat) : Nat := mul f a a

/-- Euclid's algorithm: `s` and `t` are what `u` and `v` are multiples by, modulo `f`. -/
def euclid : Nat → Nat → Nat → Nat → Nat → Nat
  | 0, _, _, s, _ => s
  | fuel + 1, u, v, s, t =>
    if u ≤ 1 then s
    else if u.log2 < v.log2 then euclid fuel v u t s
    else
      let gap := u.log2 - v.log2
      euclid fuel (u ^^^ (v <<< gap)) v (s ^^^ (t <<< gap)) t

/-- The inverse of a polynomial, zero for zero. -/
def inverse (f a : Nat) : Nat := if a = 0 then 0 else euclid (4 * degree f) a f 1 0

/-- The root of a polynomial: squaring as often as the degree less one undoes one squaring. -/
def root (f a : Nat) : Nat := (List.range (degree f - 1)).foldl (fun z _ => square f z) a

/-- One round of the search for a solution: a partial solution and a partial trace of `unit`. -/
def solveRounds (f c unit : Nat) : Nat → Nat → Nat → Nat × Nat
  | 0, z, w => (z, w)
  | count + 1, z, w =>
    let w := square f w
    solveRounds f c unit count (square f z ^^^ mul f w c) (w ^^^ unit)

/-- A polynomial whose square and itself add up to the given one; the rounds need a unit whose trace is
not zero, which some power of the indeterminate is. -/
def solve? (f c : Nat) : Option Nat :=
  let rounds (unit : Nat) := solveRounds f c unit (degree f - 1) 0 unit
  let found := (List.range (degree f)).findSome? fun i =>
    let (z, w) := rounds (1 <<< i)
    if w = 0 then none else some z
  found.filter fun z => square f z ^^^ z == c

end ClusterHarness.BinaryField
