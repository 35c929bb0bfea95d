import ClusterHarness.Proofs.Json.Strings

/-!
Documents that can be written and read: their texts, their names, their integers and their depth are
such as a dialect takes.
-/

namespace ClusterHarness.Json

@[elab_as_elim]
theorem nested_induction {motive : Json → Prop} (null : motive .null) (bool : ∀ b, motive (.bool b))
    (int : ∀ n, motive (.int n)) (float : ∀ x, motive (.float x)) (str : ∀ t, motive (.str t))
    (arr : ∀ items, (∀ v ∈ items, motive v) → motive (.arr items))
    (obj : ∀ fields, (∀ f ∈ fields, motive f.2) → motive (.obj fields)) (v : Json) : motive v := by
  refine @Json.rec motive (fun items => ∀ v ∈ items, motive v) (fun fields => ∀ f ∈ fields, motive f.2)
    (fun f => motive f.2) null bool int float str arr obj ?_ ?_ ?_ ?_ ?_ v
  · simp
  · intro w items hw hitems u hu
    rcases List.mem_cons.mp hu with rfl | hu
    · exact hw
    · exact hitems u hu
  · simp
  · intro f fields hf hfields g hg
    rcases List.mem_cons.mp hg with rfl | hg
    · exact hf
    · exact hfields g hg
  · intro k w hw
    exact hw

mutual

/-- How deep containers with something in them are nested. -/
def nesting : Json → Nat
  | .arr items => nestingItems items
  | .obj fields => nestingFields fields
  | _ => 0

def nestingItems : List Json → Nat
  | [] => 0
  | v :: items => max (nesting v + 1) (nestingItems items)

def nestingFields : List (Text × Json) → Nat
  | [] => 0
  | (_, v) :: fields => max (nesting v + 1) (nestingFields fields)

end

mutual

/-- Whether every text, name and integer of a document can be read from what is written for it. -/
def isPortable (dialect : Dialect) : Json → Bool
  | .int n => (Text.ofNat n.natAbs).length ≤ maxDigits
  | .str t => dialect.admits t
  | .arr items => isPortableItems dialect items
  | .obj fields =>
    (dialect.repeats || decide (fields.map Prod.fst).Nodup) && isPortableFields dialect fields
  | _ => true

def isPortableItems (dialect : Dialect) : List Json → Bool
  | [] => true
  | v :: items => isPortable dialect v && isPortableItems dialect items

def isPortableFields (dialect : Dialect) : List (Text × Json) → Bool
  | [] => true
  | (k, v) :: fields => dialect.admits k && isPortable dialect v && isPortableFields dialect fields

end

section Parts

variable {dialect : Dialect}

theorem nestingItems_le {items : List Json} {n : Nat} :
    nestingItems items ≤ n ↔ ∀ v ∈ items, nesting v < n := by
  induction items with
  | nil => simp [nestingItems]
  | cons v items ih => simp only [nestingItems, Nat.max_le, Nat.succ_le_iff, ih, List.forall_mem_cons]

theorem nestingFields_le {fields : List (Text × Json)} {n : Nat} :
    nestingFields fields ≤ n ↔ ∀ f ∈ fields, nesting f.2 < n := by
  induction fields with
  | nil => simp [nestingFields]
  | cons f fields ih => simp only [nestingFields, Nat.max_le, Nat.succ_le_iff, ih, List.forall_mem_cons]

theorem isPortableItems_iff {items : List Json} :
    isPortableItems dialect items ↔ ∀ v ∈ items, isPortable dialect v := by
  induction items with
  | nil => simp [isPortableItems]
  | cons v items ih => simp [isPortableItems, ih]

theorem isPortableFields_iff {fields : List (Text × Json)} :
    isPortableFields dialect fields ↔
      ∀ f ∈ fields, dialect.admits f.1 ∧ isPortable dialect f.2 := by
  induction fields with
  | nil => simp [isPortableFields]
  | cons f fields ih => simp [isPortableFields, ih]

theorem isPortable_obj {fields : List (Text × Json)} :
    isPortable dialect (.obj fields) ↔ (dialect.repeats ∨ (fields.map Prod.fst).Nodup) ∧
      ∀ f ∈ fields, dialect.admits f.1 ∧ isPortable dialect f.2 := by
  simp [isPortable, isPortableFields_iff]

end Parts

/-- What can be written and read, with containers nested no deeper than a bound. -/
structure Within (dialect : Dialect) (depth : Nat) (v : Json) : Prop where
  portable : isPortable dialect v
  shallow : nesting v ≤ depth

/-- A document that the cluster and the fixture files can hold. -/
abbrev Kept (v : Json) : Prop := Within .document Dialect.document.maxDepth v

end ClusterHarness.Json
