import ClusterHarness.Json.Basic

/-!
Reading parts of a document whose shape nobody has checked. A value of another shape is refused, and
the refusal says what was missing.
-/

namespace ClusterHarness

inductive ShapeError where
  /-- A member was asked of a value that has no members. -/
  | noMembers
  /-- A value that cannot be gone through or counted. -/
  | notACollection
  /-- An object without the name. -/
  | noSuchName
  /-- A list without the position. -/
  | noSuchPosition
  deriving DecidableEq, Repr

namespace Json

/-- The members of an object. -/
def members : Json → Except ShapeError (Fields Json)
  | .obj fields => .ok fields
  | _ => .error .noMembers

/-- The member of an object, null if it has none. -/
def member (key : Text) (v : Json) : Except ShapeError Json :=
  v.members.map fun fields => (fields.get? key).getD .null

/-- The values met when going through a value: the names of an object, the code points of a text. -/
def elements : Json → Except ShapeError (List Json)
  | .arr items => .ok items
  | .obj fields => .ok (fields.map fun (k, _) => .str k)
  | .str t => .ok (t.map fun c => .str [c])
  | _ => .error .notACollection

/-- The elements of a value that has an order to be cut in. -/
def sequence : Json → Except ShapeError (List Json)
  | .obj _ => .error .notACollection
  | v => v.elements

/-- The number of elements. -/
def count (v : Json) : Except ShapeError Nat := v.elements.map List.length

/-- The first element of a list or a text. An object is looked up by name, and a number is no name. -/
def first : Json → Except ShapeError Json
  | .arr (v :: _) => .ok v
  | .str (c :: _) => .ok (.str [c])
  | .arr [] | .str [] => .error .noSuchPosition
  | .obj _ => .error .noSuchName
  | _ => .error .notACollection

/-- The element at a position, a negative one counting from the end. -/
def atPosition (position : Int) : Json → Except ShapeError Json
  | .obj _ => .error .noSuchName
  | v => do
    let items ← v.elements
    let found := match position with
      | .ofNat n => items[n]?
      | .negSucc n => if n < items.length then items[items.length - (n + 1)]? else none
    match found with
    | some item => return item
    | none => throw .noSuchPosition

end Json

end ClusterHarness
