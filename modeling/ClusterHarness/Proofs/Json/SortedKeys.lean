import ClusterHarness.Json.Printer
import ClusterHarness.Proofs.Json.Fields
import ClusterHarness.Proofs.Json.Portable
import Mathlib.Data.List.Perm.Basic
import Mathlib.Data.Set.List

/-!
Documents with the members of every object in the order of their names: the same members are there, so
that what is looked up is the same, and they can be written and read as before.
-/

namespace ClusterHarness.Json

theorem insertSorted_perm (field : Text × Json) (fields : List (Text × Json)) :
    (insertSorted field fields).Perm (field :: fields) := by
  induction fields with
  | nil => exact .refl _
  | cons f fields ih =>
    rw [insertSorted]
    split
    · exact .refl _
    · exact (ih.cons f).trans (.swap field f fields)

theorem sortKeysFields_perm (fields : List (Text × Json)) :
    (sortKeysFields fields).Perm (fields.map fun f => (f.1, f.2.sortKeys)) := by
  induction fields with
  | nil => exact .refl _
  | cons f fields ih =>
    obtain ⟨k, v⟩ := f
    rw [sortKeysFields, List.map_cons]
    exact (insertSorted_perm _ _).trans (ih.cons _)

theorem sortKeysItems_eq (items : List Json) : sortKeysItems items = items.map sortKeys := by
  induction items with
  | nil => rfl
  | cons v items ih => rw [sortKeysItems, ih, List.map_cons]

theorem names_sortKeysFields (fields : List (Text × Json)) :
    ((sortKeysFields fields).map Prod.fst).Perm (fields.map Prod.fst) := by
  have hnames := (sortKeysFields_perm fields).map Prod.fst
  rwa [List.map_map] at hnames

end ClusterHarness.Json

namespace ClusterHarness.Fields

variable {α : Type} {fields fields' : Fields α}

theorem get?_of_perm (h : fields.Perm fields') (hnodup : (fields.map Prod.fst).Nodup) (key : Text) :
    get? key fields = get? key fields' := by
  have hnodup' : (fields'.map Prod.fst).Nodup := (h.map Prod.fst).nodup_iff.mp hnodup
  refine Option.ext fun value => ?_
  rw [get?_eq_some_iff hnodup, get?_eq_some_iff hnodup', h.mem_iff]

theorem get?_sortKeysFields {fields : Fields Json} (hnodup : (fields.map Prod.fst).Nodup) (key : Text) :
    get? key (Json.sortKeysFields fields) = (get? key fields).map Json.sortKeys := by
  have hsorted := (Json.names_sortKeysFields fields).nodup_iff.mpr hnodup
  rw [get?_of_perm (Json.sortKeysFields_perm fields) hsorted, get?_map fun _ => Json.sortKeys]

end ClusterHarness.Fields

namespace ClusterHarness.Json

variable {dialect : Dialect}

theorem isPortable_sortKeys {v : Json} (h : isPortable dialect v) : isPortable dialect v.sortKeys := by
  induction v using nested_induction with
  | null => exact h
  | bool b => exact h
  | int n => exact h
  | float x => exact h
  | str t => exact h
  | arr items ih =>
    rw [sortKeys, sortKeysItems_eq, isPortable, isPortableItems_iff]
    intro v hv
    obtain ⟨u, hu, rfl⟩ := List.mem_map.mp hv
    exact ih u hu (isPortableItems_iff.mp h u hu)
  | obj fields ih =>
    obtain ⟨hnames, hfields⟩ := isPortable_obj.mp h
    rw [sortKeys, isPortable_obj, (names_sortKeysFields fields).nodup_iff]
    refine ⟨hnames, fun f hf => ?_⟩
    obtain ⟨g, hg, rfl⟩ := List.mem_map.mp ((sortKeysFields_perm fields).mem_iff.mp hf)
    exact ⟨(hfields g hg).1, ih g hg (hfields g hg).2⟩

theorem nesting_sortKeys {v : Json} {n : Nat} (h : nesting v ≤ n) : nesting v.sortKeys ≤ n := by
  induction v using nested_induction generalizing n with
  | null => exact h
  | bool b => exact h
  | int k => exact h
  | float x => exact h
  | str t => exact h
  | arr items ih =>
    rw [sortKeys, sortKeysItems_eq, nesting, nestingItems_le]
    intro v hv
    obtain ⟨u, hu, rfl⟩ := List.mem_map.mp hv
    exact Nat.lt_of_le_of_lt (ih u hu (Nat.le_refl _)) (nestingItems_le.mp h u hu)
  | obj fields ih =>
    rw [sortKeys, nesting, nestingFields_le]
    intro f hf
    obtain ⟨g, hg, rfl⟩ := List.mem_map.mp ((sortKeysFields_perm fields).mem_iff.mp hf)
    exact Nat.lt_of_le_of_lt (ih g hg (Nat.le_refl _)) (nestingFields_le.mp h g hg)

/-- A member whose value is a text. -/
def textMember (f : Text × Text) : Text × Json := (f.1, .str f.2)

theorem textMember_injective : Function.Injective textMember := by
  rintro ⟨k, t⟩ ⟨l, u⟩ h
  cases h
  rfl

theorem sortKeysFields_texts (fields : Fields Text) : ∃ sorted : Fields Text, sorted.Perm fields ∧
    sortKeysFields (fields.map textMember) = sorted.map textMember := by
  have hperm := sortKeysFields_perm (fields.map textMember)
  rw [List.map_map] at hperm
  have htexts : ∀ f ∈ sortKeysFields (fields.map textMember), f ∈ Set.range textMember := by
    intro f hf
    obtain ⟨g, -, rfl⟩ := List.mem_map.mp (hperm.mem_iff.mp hf)
    exact ⟨g, rfl⟩
  obtain ⟨sorted, hsorted⟩ : sortKeysFields (fields.map textMember) ∈ Set.range (List.map textMember) := by
    rw [Set.range_list_map]
    exact htexts
  rw [← hsorted] at hperm
  exact ⟨sorted, (List.map_perm_map_iff textMember_injective).mp hperm, hsorted.symm⟩

end ClusterHarness.Json
