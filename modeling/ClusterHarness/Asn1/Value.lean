import ClusterHarness.Asn1.Element

/-!
ASN.1 values: truth values, integers, strings of bits and object identifiers, and the members of a
sequence read one after another.
-/

namespace ClusterHarness.Asn1

/-- Numbers that name a kind of thing, from the general to the special. -/
abbrev ObjectId := List Nat

/-- Bits in bytes, the last of which leaves some bits unused. -/
structure BitString where
  unused : Nat
  bytes : Bytes
  deriving DecidableEq, Repr

/-- Whether the first byte only repeats the sign of the second. -/
def isPadded : Bytes → Bool
  | a :: b :: _ => (a == 0 && b < 0x80) || (a == 0xFF && b ≥ 0x80)
  | _ => false

/-- An integer in as few bytes as its sign allows. -/
def integerOf? (bs : Bytes) : Option Int := do
  let first ← bs.head?
  guard (!isPadded bs)
  let n := ByteOrder.bigValue bs
  return if first < 0x80 then (n : Int) else (n : Int) - (1 <<< (8 * bs.length) : Nat)

/-- The numbers of an object identifier, each without a leading group of zeros. -/
def arcsWithin : Nat → Bytes → Option (List Nat)
  | _, [] => some []
  | 0, _ => none
  | budget + 1, bs => do
    guard (bs.head? ≠ some 0x80)
    let (n, bs) ← groups? 0 bs
    let ns ← arcsWithin budget bs
    return n :: ns

/-- Object identifiers with more bytes are not read. -/
def longestObjectId : Nat := 63

/-- An object identifier; the first number in the bytes holds two. -/
def objectIdOf? (bs : Bytes) : Option ObjectId := do
  guard (bs.length ≤ longestObjectId)
  match ← arcsWithin bs.length bs with
  | [] => none
  | n :: ns => return (if n < 80 then [n / 40, n % 40] else [2, n - 80]) ++ ns

/-- Under the distinguished rules the unused bits are zero. -/
def bitStringOf? (rules : Rules) : Bytes → Option BitString
  | [] => none
  | unused :: bs => do
    let u := unused.toNat
    guard (u ≤ 7 ∧ (bs ≠ [] ∨ u = 0 ∨ rules = .basic))
    let last := (bs.getLast?.getD 0).toNat
    guard (rules = .basic ∨ last % (1 <<< u) = 0)
    return ⟨u, bs⟩

def booleanOf? (rules : Rules) : Bytes → Option Bool
  | [b] => if rules = .basic ∨ b = 0 ∨ b = 0xFF then some (b != 0) else none
  | _ => none

namespace Element

def integer? (e : Element) : Option Int := do
  guard (e.tag = .integer)
  integerOf? e.content

/-- The number that the bytes of an integer are, whatever their sign and however many. -/
def magnitude? (e : Element) : Option Nat := do
  guard (e.tag = .integer)
  return ByteOrder.bigValue e.content

def objectId? (e : Element) : Option ObjectId := do
  guard (e.tag = .objectId)
  objectIdOf? e.content

def boolean? (rules : Rules) (e : Element) : Option Bool := do
  guard (e.tag = .boolean)
  booleanOf? rules e.content

def bitString? (rules : Rules) (e : Element) : Option BitString := do
  bitStringOf? rules (← e.bytes? rules .bitString)

def octets? (rules : Rules) (e : Element) : Option Bytes := e.bytes? rules .octetString

def isNull (e : Element) : Bool := e.tag == .null && e.content.isEmpty

end Element

/-- Reads members of a sequence from the first on. -/
abbrev Members (α : Type) := StateT (List Element) Option α

namespace Members

def next : Members Element := fun es =>
  match es with
  | [] => none
  | e :: es => some (e, es)

/-- The next member, if it has the given tag. -/
def optional (tag : Tag) : Members (Option Element) := fun es =>
  match es with
  | [] => some (none, [])
  | e :: rest => if e.tag = tag then some (some e, rest) else some (none, e :: rest)

/-- The next member, whatever its tag. -/
def any : Members (Option Element) := fun es =>
  match es with
  | [] => some (none, [])
  | e :: es => some (some e, es)

def integer : Members Int := do (← next).integer?

/-- An integer of 32 bits, which under the basic rules may be left empty for zero. -/
def version : Members Int := do
  let e ← next
  guard (e.tag = .integer)
  if e.content.isEmpty then return 0
  let n ← integerOf? e.content
  guard (-0x80000000 ≤ n ∧ n < 0x80000000)
  return n

def magnitude : Members Nat := do (← next).magnitude?

def objectId : Members ObjectId := do (← next).objectId?

/-- Reads a sequence to its end. -/
def all? {α : Type} (rules : Rules) (m : Members α) (e : Element) : Option α := do
  match ← m (← e.members? rules .sequence) with
  | (a, []) => return a
  | _ => none

end Members

end ClusterHarness.Asn1
