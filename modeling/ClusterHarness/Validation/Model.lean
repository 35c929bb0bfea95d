import ClusterHarness.Json.Printer
import ClusterHarness.Json.Reader
import ClusterHarness.Text.Utf8
import ClusterHarness.Validation.Issue

/-!
Reading a settings object from a document or from its text, and writing it back. Nothing, in any of
its forms, is an object without fields; in a text only an object will do.
-/

namespace ClusterHarness.Validation

inductive ModelError where
  | invalid (issues : List Issue)
  /-- Fields were asked of a value that has none. -/
  | noFields
  deriving DecidableEq, Repr

/-- The check of an object's fields, whose names are not repeated. -/
abbrev FieldCheck (α : Type) := Source → Fields Json → Validated α

def ofValue {α : Type} (check : FieldCheck α) (v : Json) : Except ModelError α :=
  if !v.truthy then (check .value []).mapError .invalid
  else match v with
    | .obj fields => (check .value fields).mapError .invalid
    | _ => .error .noFields

def ofText {α : Type} (check : FieldCheck α) (t : Text) : Except ModelError α :=
  match Json.read .settings t with
  | .error _ => .error (.invalid [⟨[], .malformedText⟩])
  | .ok (.obj fields) => (check .text (Fields.ofList fields)).mapError .invalid
  | .ok _ => .error (.invalid [⟨[], .notModel [] .text⟩])

/-- The text of a settings object, its names in order. -/
def toText (dump : Json) : Text := dump.sortKeys.render

/-- The names of a settings object's own fields are dumped as UTF-8, which has no surrogates: each of
the three bytes that one would take is replaced. -/
def dumpedName (t : Text) : Text :=
  t.flatMap fun c => if c.isSurrogate then List.replicate 3 Utf8.replacement else [c]

/-- Fields under the names that they are dumped with, of which some may have become one. -/
def dumpedFields {α : Type} (fields : Fields α) : Fields α :=
  Fields.ofList (fields.map fun (k, v) => (dumpedName k, v))

/-- Loose values are dumped without the numbers that JSON does not have. -/
def finite (x : Binary64) : Json := if x.isFinite then .float x else .null

inductive DumpError where
  | tooDeep
  | name (e : Utf8.Unwritable)
  deriving DecidableEq, Repr

def DumpError.message : DumpError → Text
  | .tooDeep => "Maximum serialization depth exceeded"
  | .name e => e.message

/-- The most values from a loose value down to the one that lies deepest in it. -/
def maxHeight : Nat := 255

/-- The name of a member inside a loose value, which must be UTF-8. -/
def innerName (t : Text) : Except DumpError Text := (Utf8.write t).mapError .name |>.map fun _ => t

mutual

/-- Dumps a loose value of a height within the given one, outer values first. -/
def dumpLoose : Nat → Json → Except DumpError Json
  | 0, _ => .error .tooDeep
  | height + 1, v =>
    match v with
    | .float x => .ok (finite x)
    | .arr items => (dumpItems height items).map .arr
    | .obj fields => (dumpMembers height fields).map .obj
    | v => .ok v

def dumpItems : Nat → List Json → Except DumpError (List Json)
  | _, [] => .ok []
  | height, v :: vs => do
    let v ← dumpLoose height v
    let vs ← dumpItems height vs
    return v :: vs

def dumpMembers : Nat → List (Text × Json) → Except DumpError (List (Text × Json))
  | _, [] => .ok []
  | height, (k, v) :: fields => do
    let k ← innerName k
    let v ← dumpLoose height v
    let fields ← dumpMembers height fields
    return (k, v) :: fields

end

/-- Dumps the loose values of some fields. -/
def dumpLooseFields (fields : Fields Json) : Except DumpError (Fields Json) :=
  fields.mapM fun (k, v) => (dumpLoose maxHeight v).map (k, ·)

def nullable (t : Option Text) : Json := (t.map Json.str).getD .null

end ClusterHarness.Validation
