import ClusterHarness.Asn1.Value

/-!
The forms of elements under the basic rules: checks of elements, and of the members of a sequence that may
be left out or are marked with a number.
-/

namespace ClusterHarness.Asn1

abbrev Form := Element → Bool

/-- The element as it were without its mark, which took the place of a tag. -/
def Element.unmarked (kind : Tag) (e : Element) : Element :=
  { e with tag := ⟨(kind.lead &&& 0xC0) ||| (e.tag.lead &&& 0x20), kind.number⟩ }

namespace Form

def integer : Form := fun e => e.integer?.isSome

def boolean : Form := fun e => (e.boolean? .basic).isSome

def objectId : Form := fun e => e.objectId?.isSome

def octets : Form := fun e => (e.octets? .basic).isSome

def bits : Form := fun e => (e.bitString? .basic).isSome

def string (tag : Tag) : Form := fun e => (e.bytes? .basic tag).isSome

/-- A value of any kind; those of the kinds that are known have to be in order. -/
def anyValue : Form := fun e =>
  if e.tag.lead &&& 0xC0 ≠ 0 then true
  else match e.tag.number with
    | 1 => boolean e
    | 2 | 10 => !e.tag.isConstructed && (integerOf? e.content).isSome
    | 3 => bits e
    | 5 => e.isNull
    | 6 => objectId e
    | 16 | 17 => e.tag.isConstructed
    | 28 => (e.bytes? .basic (.universal 28)).any fun bs => bs.length % 4 == 0
    | 30 => (e.bytes? .basic (.universal 30)).any fun bs => bs.length % 2 == 0
    | n => (e.bytes? .basic (.universal n)).isSome

def anyOf (forms : List Form) : Form := fun e => forms.any fun f => f e

def listOf (f : Form) : Form := fun e => (e.items? .basic .sequence).any fun es => es.all f

def setOf (f : Form) : Form := fun e => (e.items? .basic .set).any fun es => es.all f

def sequence (m : Members Unit) : Form := fun e => (Members.all? .basic m e).isSome

/-- An element that only marks one of the form. -/
def marking (f : Form) : Form := fun e => (e.marked? .basic).any f

/-- An element whose mark took the place of its tag. -/
def tagged (kind : Tag) (f : Form) : Form := fun e => f (e.unmarked kind)

/-- A member that has to be there. -/
def required (f : Form) : Members Unit := do guard (f (← Members.next))

/-- A member that may be left out and is known by its tag. -/
def optional (tag : Tag) (f : Form) : Members Unit := fun es =>
  match es with
  | [] => some ((), [])
  | e :: rest => if e.tag.isLike tag then if f e then some ((), rest) else none else some ((), e :: rest)

/-- Whether an element is marked with a number. -/
def hasMark (n : Nat) (e : Element) : Bool := e.tag.isLike (.context n)

end Form

end ClusterHarness.Asn1
