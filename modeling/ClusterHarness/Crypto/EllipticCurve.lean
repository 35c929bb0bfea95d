import ClusterHarness.Crypto.BinaryField
import ClusterHarness.Crypto.PrimeField
import ClusterHarness.Number.ByteOrder

/-!
Elliptic curves over prime fields, `y² = x³ + ax + b`, and over binary fields, `y² + xy = x³ + ax² + b`.
A point is a pair of coordinates or the point at infinity, and points are written with both coordinates
or with the first and one bit of the second.
-/

namespace ClusterHarness

inductive CurveField where
  | prime (p : Nat)
  /-- Modulo a polynomial over two elements. -/
  | binary (f : Nat)
  deriving DecidableEq, Repr

/-- A point of a curve; none is the point at infinity. -/
abbrev CurvePoint := Option (Nat × Nat)

structure EllipticCurve where
  field : CurveField
  a : Nat
  b : Nat
  base : Nat × Nat
  order : Nat
  deriving DecidableEq, Repr

namespace CurveField

def add : CurveField → Nat → Nat → Nat
  | .prime p => PrimeField.add p
  | .binary _ => BinaryField.add

def sub : CurveField → Nat → Nat → Nat
  | .prime p => PrimeField.sub p
  | .binary _ => BinaryField.add

def mul : CurveField → Nat → Nat → Nat
  | .prime p => PrimeField.mul p
  | .binary f => BinaryField.mul f

def inverse : CurveField → Nat → Nat
  | .prime p => PrimeField.inverse p
  | .binary f => BinaryField.inverse f

/-- Elements are below this number. -/
def limit : CurveField → Nat
  | .prime p => p
  | .binary f => 1 <<< f.log2

/-- The bytes that an element is written in. -/
def width (k : CurveField) : Nat := ((k.limit - 1).log2 + 8) / 8

end CurveField

namespace EllipticCurve

def holds (c : EllipticCurve) (x y : Nat) : Bool :=
  let k := c.field
  let square := k.mul x x
  match k with
  | .prime _ => k.mul y y == k.add (k.add (k.mul square x) (k.mul c.a x)) c.b
  | .binary _ => k.add (k.mul y y) (k.mul x y) == k.add (k.add (k.mul square x) (k.mul c.a square)) c.b

/-- The third point on the line of a given slope through a point and one with the first coordinate `x'`,
turned over. -/
def onLine (c : EllipticCurve) (slope x y x' : Nat) : CurvePoint :=
  let k := c.field
  let square := k.mul slope slope
  match k with
  | .prime _ =>
    let u := k.sub (k.sub square x) x'
    some (u, k.sub (k.mul slope (k.sub x u)) y)
  | .binary _ =>
    let u := k.add (k.add (k.add square slope) (k.add x x')) c.a
    some (u, k.add (k.add (k.mul slope (k.add x u)) u) y)

def double (c : EllipticCurve) : CurvePoint → CurvePoint
  | none => none
  | some (x, y) =>
    let k := c.field
    match k with
    | .prime _ =>
      if y = 0 then none
      else
        let square := k.mul x x
        let rise := k.add (k.add square (k.add square square)) c.a
        c.onLine (k.mul rise (k.inverse (k.add y y))) x y x
    | .binary _ => if x = 0 then none else c.onLine (k.add x (k.mul y (k.inverse x))) x y x

def add (c : EllipticCurve) : CurvePoint → CurvePoint → CurvePoint
  | none, q => q
  | p, none => p
  | some (x, y), some (x', y') =>
    if x = x' then if y = y' then c.double (some (x, y)) else none
    else
      let k := c.field
      c.onLine (k.mul (k.sub y' y) (k.inverse (k.sub x' x))) x y x'

/-- The sum of as many times a point as a number says. -/
def multiply (c : EllipticCurve) (n : Nat) (q : CurvePoint) : CurvePoint :=
  if n = 0 then none
  else
    let half := multiply c (n / 2) (c.double q)
    if n % 2 = 1 then c.add q half else half
termination_by n

/-- The point that belongs to a secret number. -/
def publicPoint (c : EllipticCurve) (secret : Nat) : CurvePoint := c.multiply (secret % c.order) (some c.base)

/-! ### Written points -/

/-- The bit that tells a second coordinate from the other that the first has. -/
def sign (c : EllipticCurve) (x y : Nat) : Nat :=
  match c.field with
  | .prime _ => y % 2
  | .binary f => if x = 0 then 0 else BinaryField.mul f y (BinaryField.inverse f x) % 2

/-- The second coordinate that belongs to a first one and a bit. -/
def second? (c : EllipticCurve) (x bit : Nat) : Option Nat :=
  let k := c.field
  match k with
  | .prime p => do
    let square := k.mul x x
    let y ← PrimeField.root? p (k.add (k.add (k.mul square x) (k.mul c.a x)) c.b)
    if y % 2 = bit then return y
    guard (y ≠ 0)
    return p - y
  | .binary f => do
    if x = 0 then return BinaryField.root f c.b
    let z ← BinaryField.solve? f (k.add (k.add x c.a) (k.mul c.b (k.inverse (k.mul x x))))
    return k.mul x (if z % 2 = bit then z else k.add z 1)

/-- Reads a point: one byte for the point at infinity; the first coordinate after two or three; both
coordinates after four, or after six or seven, which give a bit of the second too. -/
def point? (c : EllipticCurve) : Bytes → Option CurvePoint
  | [] => none
  | form :: bs => do
    let width := c.field.width
    let form := form.toNat
    if form = 0 then
      guard bs.isEmpty
      return none
    let x := ByteOrder.bigValue (bs.take width)
    guard (x < c.field.limit)
    if form = 2 ∨ form = 3 then
      guard (bs.length = width)
      return some (x, ← c.second? x (form % 2))
    guard (form = 4 ∨ form = 6 ∨ form = 7)
    guard (bs.length = 2 * width)
    let y := ByteOrder.bigValue (bs.drop width)
    guard (y < c.field.limit ∧ c.holds x y = true)
    guard (form = 4 ∨ c.sign x y = form % 2)
    return some (x, y)

/-- A point that is read with both coordinates lies on the curve. -/
theorem holds_of_point? {c : EllipticCurve} {bs : Bytes} {x y : Nat}
    (h : c.point? (4 :: bs) = some (some (x, y))) : c.holds x y = true := by
  unfold point? at h
  delta guard at h
  simp only [bind, Option.bind, pure] at h
  repeat' split at h <;> simp_all

end EllipticCurve

end ClusterHarness
