import ClusterHarness.Crypto.NamedCurve

/-!
The parameters of keys on elliptic curves: the name of a curve, or all of its numbers.
-/

namespace ClusterHarness

open Asn1

/-- A curve, with its name if it has one. -/
structure CurveGroup where
  id : Option ObjectId
  curve : EllipticCurve
  deriving DecidableEq, Repr

namespace CurveGroup

def ofNamed (n : NamedCurve) : CurveGroup := ⟨some n.id, n.curve⟩

/-- Curves are the same if their numbers are, and their names as far as both have one. -/
def same (g h : CurveGroup) : Bool :=
  match g.id, h.id with
  | some i, some j => i == j
  | _, _ => g.curve == h.curve

/-- The most bits that a field may have. -/
def maxBits : Nat := 661

/-- A positive integer. -/
def positive? (e : Element) : Option Nat := do
  let n ← e.integer?
  guard (0 < n)
  return n.toNat

def primeFieldId : ObjectId := [1, 2, 840, 10045, 1, 1]

def binaryFieldId : ObjectId := [1, 2, 840, 10045, 1, 2]

def trinomialId : ObjectId := binaryFieldId ++ [3, 2]

def pentanomialId : ObjectId := binaryFieldId ++ [3, 3]

/-- A polynomial by the exponents of its terms. -/
def polynomial (exponents : List Nat) : Nat := exponents.foldl (fun f k => f ||| 1 <<< k) 0

/-- The three exponents between those of the first and the last of five terms. -/
def middle? (e : Element) : Option (Nat × Nat × Nat) := do
  match ← (← e.members? .basic .sequence).mapM positive? with
  | [i, j, k] => return (i, j, k)
  | _ => none

/-- A polynomial of three or five terms: its degree, and the exponents between that and zero. -/
def binaryField : Members CurveField := do
  let degree ← positive? (← Members.next)
  let basis ← Members.objectId
  let middle ← Members.next
  guard (degree ≤ maxBits)
  if basis = trinomialId then
    let k ← positive? middle
    guard (k < degree)
    return .binary (polynomial [0, k, degree])
  guard (basis = pentanomialId)
  let (i, j, k) ← middle? middle
  guard (i < j ∧ j < k ∧ k < degree)
  return .binary (polynomial [0, i, j, k, degree])

def field : Members CurveField := do
  let kind ← Members.objectId
  let e ← Members.next
  if kind = primeFieldId then
    let p ← positive? e
    guard (p % 2 = 1 ∧ 3 < p ∧ ByteOrder.bitLength p ≤ maxBits)
    return .prime p
  guard (kind = binaryFieldId)
  Members.all? .basic binaryField e

def reduce : CurveField → Nat → Nat
  | .prime p, n => n % p
  | .binary _, n => n

/-- The coefficients of a curve, and bits that they may come from. -/
def coefficients (k : CurveField) : Members (Nat × Nat) := do
  let a ← (← Members.next).octets? .basic
  let b ← (← Members.next).octets? .basic
  match ← Members.any with
  | none => pure ()
  | some e => let _ ← e.bitString? .basic
  return (reduce k (ByteOrder.bigValue a), reduce k (ByteOrder.bigValue b))

/-- A curve by its numbers: a version, the field, the coefficients, the base point, its order, and the
cofactor. -/
def numbers : Members CurveGroup := do
  let _ ← Members.version
  let k ← Members.all? .basic field (← Members.next)
  let (a, b) ← Members.all? .basic (coefficients k) (← Members.next)
  let base ← (← Members.next).octets? .basic
  let order ← positive? (← Members.next)
  match ← Members.any with
  | none => pure ()
  | some e => guard (0 ≤ (← e.integer?))
  guard (ByteOrder.bitLength order ≤ ByteOrder.bitLength (k.limit - 1) + 1)
  let curve : EllipticCurve := ⟨k, a, b, (0, 0), order⟩
  match curve.point? base with
  | some (some p) =>
    let curve := { curve with base := p }
    return ⟨(NamedCurve.ofCurve? curve).map (·.id), curve⟩
  | _ => failure

def ofElement? (e : Element) : Option CurveGroup :=
  if e.tag = .objectId then (e.objectId?.bind NamedCurve.ofId?).map ofNamed
  else Members.all? .basic numbers e

/-- The size of the group in bits. -/
def bits (g : CurveGroup) : Nat := ByteOrder.bitLength g.curve.order

end CurveGroup

end ClusterHarness
