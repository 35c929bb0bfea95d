import ClusterHarness.Number.Binary64
import ClusterHarness.Text.Basic

/-!
JSON documents. An object keeps the order of its members; integers and floating numbers are apart.
-/

namespace ClusterHarness

inductive Json where
  | null
  | bool (b : Bool)
  | int (n : Int)
  | float (x : Binary64)
  | str (t : Text)
  | arr (items : List Json)
  | obj (fields : List (Text × Json))
  deriving Inhabited, Repr

/-- Values under names, in order. -/
abbrev Fields (α : Type) := List (Text × α)

namespace Fields

def get? {α : Type} (key : Text) : Fields α → Option α
  | [] => none
  | (k, v) :: fields => if k = key then some v else get? key fields

/-- Replaces the value of a name in its place, or adds the name at the end. -/
def put {α : Type} (key : Text) (value : α) : Fields α → Fields α
  | [] => [(key, value)]
  | (k, v) :: fields => if k = key then (key, value) :: fields else (k, v) :: put key value fields

/-- The members in order; of a repeated name, the first place and the last value. -/
def ofList {α : Type} (members : List (Text × α)) : Fields α :=
  members.foldl (fun fields (k, v) => put k v fields) []

theorem get?_put {α : Type} (key key' : Text) (value : α) (fields : Fields α) :
    get? key' (put key value fields) = if key = key' then some value else get? key' fields := by
  induction fields with
  | nil => rfl
  | cons field fields ih =>
    obtain ⟨k, v⟩ := field
    by_cases h : k = key <;> by_cases h' : key = key' <;> simp_all [put, get?]

end Fields

namespace Json

/-- Whether a value counts as true: not null, false, zero or empty. -/
def truthy : Json → Bool
  | .null => false
  | .bool b => b
  | .int n => n != 0
  | .float x => !x.isZero
  | .str t => !t.isEmpty
  | .arr items => !items.isEmpty
  | .obj fields => !fields.isEmpty

/-- The name of a value's kind in messages. -/
def kindName : Json → Text
  | .null => "NoneType"
  | .bool _ => "bool"
  | .int _ => "int"
  | .float _ => "float"
  | .str _ => "str"
  | .arr _ => "list"
  | .obj _ => "dict"

mutual

/-- The document with the members of a repeated name in one, at every depth. -/
def merged : Json → Json
  | .arr items => .arr (mergedItems items)
  | .obj fields => .obj (Fields.ofList (mergedFields fields))
  | v => v

def mergedItems : List Json → List Json
  | [] => []
  | v :: items => merged v :: mergedItems items

def mergedFields : List (Text × Json) → List (Text × Json)
  | [] => []
  | (k, v) :: fields => (k, merged v) :: mergedFields fields

end

end Json

end ClusterHarness
