import ClusterHarness.Proofs.Json.Fields
import ClusterHarness.Proofs.Json.Portable

/-!
Documents with the members of a repeated name in one. To merge them again changes nothing, and what
every part of a document has, every part of the merged one has.
-/

namespace ClusterHarness

namespace Fields

variable {α β : Type}

theorem put_map (g : α → β) (key : Text) (value : α) (fields : Fields α) :
    put key (g value) (fields.map fun f => (f.1, g f.2)) = (put key value fields).map fun f => (f.1, g f.2) := by
  induction fields with
  | nil => rfl
  | cons field fields ih =>
    obtain ⟨k, v⟩ := field
    by_cases h : k = key
    · simp [put, h]
    · simp [put, h, ih]

theorem foldl_put_map (g : α → β) (members : List (Text × α)) (acc : Fields α) :
    (members.map fun f => (f.1, g f.2)).foldl (fun fields (k, v) => put k v fields)
        (acc.map fun f => (f.1, g f.2)) =
      (members.foldl (fun fields (k, v) => put k v fields) acc).map fun f => (f.1, g f.2) := by
  induction members generalizing acc with
  | nil => rfl
  | cons m members ih =>
    simp only [List.map_cons, List.foldl_cons, put_map]
    exact ih _

theorem ofList_map (g : α → β) (members : List (Text × α)) :
    ofList (members.map fun f => (f.1, g f.2)) = (ofList members).map fun f => (f.1, g f.2) :=
  foldl_put_map g members []

theorem ofList_ne_nil {members : List (Text × α)} (h : members ≠ []) : ofList members ≠ [] := by
  obtain ⟨m, members, rfl⟩ := List.exists_cons_of_ne_nil h
  intro hnil
  have hname : m.1 ∈ (ofList (m :: members)).map Prod.fst := by
    unfold ofList
    rw [mem_names_foldl_put]
    exact .inr List.mem_cons_self
  rw [hnil] at hname
  exact List.not_mem_nil hname

end Fields

namespace Json

theorem mergedItems_eq (items : List Json) : mergedItems items = items.map merged := by
  induction items with
  | nil => rfl
  | cons v items ih => rw [mergedItems, ih, List.map_cons]

def mergeMember (f : Text × Json) : Text × Json := (f.1, f.2.merged)

theorem mergedFields_eq (fields : List (Text × Json)) : mergedFields fields = fields.map mergeMember := by
  induction fields with
  | nil => rfl
  | cons f fields ih => rw [mergedFields, ih, List.map_cons]; rfl

theorem merged_arr (items : List Json) : (arr items).merged = .arr (items.map merged) := by
  rw [merged, mergedItems_eq]

theorem merged_obj (fields : List (Text × Json)) :
    (obj fields).merged = .obj ((Fields.ofList fields).map mergeMember) := by
  rw [merged, mergedFields_eq]
  exact congrArg obj (Fields.ofList_map merged fields)

theorem names_mergeMember (fields : Fields Json) :
    (fields.map mergeMember).map Prod.fst = fields.map Prod.fst := by
  rw [List.map_map]
  rfl

theorem nodup_mergeMember (fields : List (Text × Json)) :
    (((Fields.ofList fields).map mergeMember).map Prod.fst).Nodup := by
  rw [names_mergeMember]
  exact (Fields.ofList_spec fields).1

@[simp] theorem merged_merged (v : Json) : v.merged.merged = v.merged := by
  induction v using nested_induction with
  | arr items ih =>
    rw [merged_arr, merged_arr, List.map_map]
    exact congrArg arr (List.map_congr_left ih)
  | obj fields ih =>
    rw [merged_obj, merged_obj, Fields.ofList_of_nodup (nodup_mergeMember fields), List.map_map]
    refine congrArg obj (List.map_congr_left fun f hf => Prod.ext rfl ?_)
    exact ih f ((Fields.ofList_spec fields).2 f hf)
  | _ => rfl

theorem nesting_merged (v : Json) : v.merged.nesting ≤ v.nesting := by
  induction v using nested_induction with
  | arr items ih =>
    rw [merged_arr, nesting, nestingItems_le]
    intro w hw
    obtain ⟨v, hv, rfl⟩ := List.mem_map.mp hw
    exact Nat.lt_of_le_of_lt (ih v hv) (nestingItems_le.mp (Nat.le_refl _) v hv)
  | obj fields ih =>
    rw [merged_obj, nesting, nestingFields_le]
    intro g hg
    obtain ⟨f, hf, rfl⟩ := List.mem_map.mp hg
    have hmem : f ∈ fields := (Fields.ofList_spec fields).2 f hf
    exact Nat.lt_of_le_of_lt (ih f hmem) (nestingFields_le.mp (Nat.le_refl _) f hmem)
  | _ => exact Nat.le_refl _

end Json

end ClusterHarness
