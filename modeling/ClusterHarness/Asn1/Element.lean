import ClusterHarness.Number.ByteOrder

/-!
ASN.1 elements in bytes: a tag, a length and a content. The distinguished rules leave one form for each
element; under the basic rules a length may have more bytes than it needs, and a content may run up to
an end mark instead of having a length.
-/

namespace ClusterHarness.Asn1

inductive Rules where
  | basic
  | distinguished
  deriving DecidableEq, Repr

/-- The kind of an element: its class, whether its content is made of elements, and a number. -/
structure Tag where
  /-- The three high bits of the first byte. -/
  lead : UInt8
  number : Nat
  deriving DecidableEq, Repr

namespace Tag

def universal (n : Nat) : Tag := ⟨0x00, n⟩

def boolean : Tag := universal 1
def integer : Tag := universal 2
def bitString : Tag := universal 3
def octetString : Tag := universal 4
def null : Tag := universal 5
def objectId : Tag := universal 6
def utcTime : Tag := universal 23
def generalizedTime : Tag := universal 24

def sequence : Tag := ⟨0x20, 16⟩
def set : Tag := ⟨0x20, 17⟩

/-- A tag whose meaning the surrounding element gives. -/
def context (n : Nat) : Tag := ⟨0x80, n⟩

/-- The same tag on a content that is made of elements. -/
def constructed (t : Tag) : Tag := ⟨t.lead ||| 0x20, t.number⟩

def isConstructed (t : Tag) : Bool := t.lead &&& 0x20 != 0

/-- Whether a tag is the given one, on a content of either kind. -/
def isLike (t kind : Tag) : Bool := t.constructed == kind.constructed

end Tag

/-- A number in groups of seven bits, the last below 128. -/
def groups? (n : Nat) : Bytes → Option (Nat × Bytes)
  | [] => none
  | b :: bs =>
    let n := n * 128 + b.toNat % 128
    if b < 0x80 then some (n, bs) else groups? n bs

/-- Tags up to 30 have one byte. -/
def tag? (rules : Rules) : Bytes → Option (Tag × Bytes)
  | [] => none
  | b :: bs =>
    let lead := b &&& 0xE0
    let low := (b &&& 0x1F).toNat
    if low < 31 then some (⟨lead, low⟩, bs)
    else do
      let (n, rest) ← groups? 0 bs
      guard (rules = .basic ∨ 31 ≤ n ∧ bs.head? ≠ some 0x80)
      guard (n < 0x80000000)
      return (⟨lead, n⟩, rest)

/-- The length at the head of some bytes; none is a content up to an end mark. A length of more than one
byte is not read where nothing follows it. -/
def length? (rules : Rules) : Bytes → Option (Option Nat × Bytes)
  | [] => none
  | b :: bs =>
    if b < 0x80 then some (some b.toNat, bs)
    else if b = 0x80 then if rules = .basic then some (none, bs) else none
    else do
      let count := b.toNat - 0x80
      guard (count < bs.length)
      let digits := bs.take count
      let n := ByteOrder.bigValue digits
      guard (rules = .basic ∨ count ≤ 4 ∧ digits.head? ≠ some 0 ∧ 0x80 ≤ n)
      return (some n, bs.drop count)

structure Head where
  tag : Tag
  length : Option Nat

/-- The head of an element; only a content that is made of elements has an end mark. -/
def head? (rules : Rules) (bs : Bytes) : Option (Head × Bytes) := do
  let (tag, bs) ← tag? rules bs
  let (length, bs) ← length? rules bs
  guard (length.isSome ∨ tag.isConstructed)
  return (⟨tag, length⟩, bs)

/-- What follows the end marks of as many elements as are open. -/
def afterEnd? : Nat → Nat → Bytes → Option Bytes
  | _, 0, bs => some bs
  | 0, _ + 1, _ => none
  | budget + 1, opened + 1, 0 :: 0 :: bs => afterEnd? budget opened bs
  | budget + 1, opened + 1, bs => do
    let (h, bs) ← head? .basic bs
    match h.length with
    | none => afterEnd? budget (opened + 2) bs
    | some n =>
      guard (n ≤ bs.length)
      afterEnd? budget (opened + 1) (bs.drop n)

structure Element where
  tag : Tag
  content : Bytes
  /-- All bytes of the element. -/
  encoded : Bytes
  deriving DecidableEq, Repr

/-- The element at the head of some bytes. -/
def element? (rules : Rules) (bs : Bytes) : Option (Element × Bytes) := do
  let (h, inner) ← head? rules bs
  match h.length with
  | some n =>
    guard (n ≤ inner.length)
    let rest := inner.drop n
    return (⟨h.tag, inner.take n, bs.take (bs.length - rest.length)⟩, rest)
  | none =>
    let rest ← afterEnd? inner.length 1 inner
    return (⟨h.tag, inner.take (inner.length - rest.length - 2), bs.take (bs.length - rest.length)⟩, rest)

/-- The elements that make up some bytes; an element takes at least two bytes. -/
def elementsWithin (rules : Rules) : Nat → Bytes → Option (List Element)
  | _, [] => some []
  | 0, _ => none
  | budget + 1, bs => do
    let (e, bs) ← element? rules bs
    let es ← elementsWithin rules budget bs
    return e :: es

def elements? (rules : Rules) (bs : Bytes) : Option (List Element) := elementsWithin rules bs.length bs

/-- The one element that some bytes are. -/
def single? (rules : Rules) (bs : Bytes) : Option Element :=
  match element? rules bs with
  | some (e, []) => some e
  | _ => none

namespace Element

/-- The elements in one with the given tag. -/
def members? (rules : Rules) (tag : Tag) (e : Element) : Option (List Element) := do
  guard (e.tag = tag)
  elements? rules e.content

/-- The elements in a list. Under the basic rules the tag of a list need not say that it has elements. -/
def items? (rules : Rules) (tag : Tag) (e : Element) : Option (List Element) := do
  guard (e.tag = tag ∨ rules = .basic ∧ e.tag.isLike tag = true)
  elements? rules e.content

/-- The one element in an element that only marks it. -/
def marked? (rules : Rules) (e : Element) : Option Element := do
  guard e.tag.isConstructed
  single? rules e.content

/-- The bytes of a string. Under the basic rules a string may come in parts, one within another up to
`depth` times. -/
def partsWithin : Nat → Bytes → Option Bytes
  | 0, _ => none
  | depth + 1, bs => do
    let es ← elements? .basic bs
    let parts ← es.mapM fun e => if e.tag.isConstructed then partsWithin depth e.content else some e.content
    return parts.flatten

def bytes? (rules : Rules) (tag : Tag) (e : Element) : Option Bytes :=
  if e.tag = tag then some e.content
  else if e.tag = tag.constructed ∧ rules = .basic then partsWithin 6 e.content
  else none

end Element

end ClusterHarness.Asn1
