import ClusterHarness.Json.Basic
import Mathlib.Data.List.Basic
import Mathlib.Data.List.Nodup

/-!
Values under names: looking a name up, and names that do not repeat.
-/

namespace ClusterHarness.Fields

variable {α β : Type}

theorem mem_of_get? {key : Text} {value : α} {fields : Fields α} (h : get? key fields = some value) :
    (key, value) ∈ fields := by
  induction fields with
  | nil => cases h
  | cons field fields ih =>
    obtain ⟨k, v⟩ := field
    by_cases hk : k = key
    · rw [get?, if_pos hk, Option.some.injEq] at h
      rw [hk, h]
      exact List.mem_cons_self
    · rw [get?, if_neg hk] at h
      exact List.mem_cons_of_mem _ (ih h)

theorem get?_map (value : Text → α → β) (fields : Fields α) (key : Text) :
    get? key (fields.map fun f => (f.1, value f.1 f.2)) = (get? key fields).map (value key) := by
  induction fields with
  | nil => rfl
  | cons field fields ih =>
    obtain ⟨k, v⟩ := field
    by_cases hk : k = key
    · simp [get?, hk]
    · simp only [List.map_cons, get?, if_neg hk, ih]

theorem get?_eq_none_iff {key : Text} {fields : Fields α} :
    get? key fields = none ↔ key ∉ fields.map Prod.fst := by
  induction fields with
  | nil => simp [get?]
  | cons field fields ih =>
    obtain ⟨k, v⟩ := field
    by_cases hk : k = key
    · simp [get?, hk]
    · simp only [get?, if_neg hk, ih, List.map_cons, List.mem_cons, Ne.symm hk, false_or]

theorem get?_eq_some_iff {key : Text} {value : α} {fields : Fields α}
    (hnodup : (fields.map Prod.fst).Nodup) : get? key fields = some value ↔ (key, value) ∈ fields := by
  refine ⟨mem_of_get?, fun h => ?_⟩
  induction fields with
  | nil => cases h
  | cons field fields ih =>
    obtain ⟨k, v⟩ := field
    obtain ⟨hk, hnodup⟩ := List.nodup_cons.mp hnodup
    rcases List.mem_cons.mp h with h | h
    · cases h
      exact if_pos rfl
    · have hmem : key ∈ fields.map Prod.fst := List.mem_map.mpr ⟨(key, value), h, rfl⟩
      have hne : k ≠ key := fun hsame => hk (hsame ▸ hmem)
      rw [get?, if_neg hne]
      exact ih hnodup h

/-! ### Names that do not repeat -/

theorem put_of_not_mem {key : Text} (value : α) {fields : Fields α} (h : key ∉ fields.map Prod.fst) :
    put key value fields = fields ++ [(key, value)] := by
  induction fields with
  | nil => rfl
  | cons field fields ih =>
    obtain ⟨k, v⟩ := field
    rw [List.map_cons, List.mem_cons, not_or] at h
    rw [put, if_neg (Ne.symm h.1), ih h.2, List.cons_append]

theorem foldl_put_of_nodup {fields : List (Text × α)} {acc : Fields α}
    (h : ((acc ++ fields).map Prod.fst).Nodup) :
    fields.foldl (fun fields (k, v) => put k v fields) acc = acc ++ fields := by
  induction fields generalizing acc with
  | nil => rw [List.append_nil]; rfl
  | cons field fields ih =>
    obtain ⟨k, v⟩ := field
    have happ : acc ++ (k, v) :: fields = acc ++ [(k, v)] ++ fields := by simp
    have hnot : k ∉ acc.map Prod.fst := by
      intro hmem
      rw [List.map_append, List.nodup_append] at h
      exact h.2.2 k hmem k (by simp) rfl
    rw [happ] at h ⊢
    rw [← ih h]
    change List.foldl _ (put k v acc) fields = _
    rw [put_of_not_mem v hnot]

theorem ofList_of_nodup {fields : List (Text × α)} (h : (fields.map Prod.fst).Nodup) :
    ofList fields = fields := foldl_put_of_nodup (by simpa using h)

theorem mem_of_mem_put {key : Text} {value : α} {fields : Fields α} {f : Text × α}
    (h : f ∈ put key value fields) : f ∈ fields ∨ f = (key, value) := by
  induction fields with
  | nil => exact .inr (List.mem_singleton.mp h)
  | cons g fields ih =>
    obtain ⟨k, v⟩ := g
    rw [put] at h
    split at h
    · rcases List.mem_cons.mp h with rfl | h
      · exact .inr rfl
      · exact .inl (List.mem_cons_of_mem _ h)
    · rcases List.mem_cons.mp h with rfl | h
      · exact .inl List.mem_cons_self
      · exact (ih h).imp_left (List.mem_cons_of_mem _)

theorem nodup_put {key : Text} (value : α) {fields : Fields α}
    (h : (fields.map Prod.fst).Nodup) : ((put key value fields).map Prod.fst).Nodup := by
  induction fields with
  | nil => exact List.nodup_singleton key
  | cons g fields ih =>
    obtain ⟨k, v⟩ := g
    obtain ⟨hk, hnodup⟩ := List.nodup_cons.mp h
    rw [put]
    split
    · next hsame => exact hsame ▸ h
    · next hother =>
      refine List.nodup_cons.mpr ⟨fun hmem => ?_, ih hnodup⟩
      obtain ⟨f, hf, hname⟩ := List.mem_map.mp hmem
      rcases mem_of_mem_put hf with hf | rfl
      · exact hk (hname ▸ List.mem_map_of_mem hf)
      · exact hother hname.symm

theorem foldl_put_spec (members : List (Text × α)) (acc : Fields α) (hacc : (acc.map Prod.fst).Nodup) :
    ((members.foldl (fun fields (k, v) => put k v fields) acc).map Prod.fst).Nodup ∧
      ∀ f ∈ members.foldl (fun fields (k, v) => put k v fields) acc, f ∈ acc ∨ f ∈ members := by
  induction members generalizing acc with
  | nil => exact ⟨hacc, fun f hf => .inl hf⟩
  | cons m members ih =>
    obtain ⟨k, v⟩ := m
    obtain ⟨hnodup, hmem⟩ := ih _ (nodup_put v hacc)
    refine ⟨hnodup, fun f hf => ?_⟩
    rcases hmem f hf with hf | hf
    · refine (mem_of_mem_put hf).imp_right fun h => ?_
      rw [h]
      exact List.mem_cons_self
    · exact .inr (List.mem_cons_of_mem _ hf)

theorem ofList_spec (members : List (Text × α)) :
    ((ofList members).map Prod.fst).Nodup ∧ ∀ f ∈ ofList members, f ∈ members := by
  obtain ⟨hnodup, hmem⟩ := foldl_put_spec members [] List.nodup_nil
  exact ⟨hnodup, fun f hf => (hmem f hf).resolve_left List.not_mem_nil⟩

theorem mem_names_put {key name : Text} (value : α) {fields : Fields α} :
    name ∈ (put key value fields).map Prod.fst ↔ key = name ∨ name ∈ fields.map Prod.fst := by
  rw [← not_iff_not, ← get?_eq_none_iff, get?_put, not_or, ← get?_eq_none_iff]
  by_cases h : key = name <;> simp [h]

theorem mem_names_foldl_put {name : Text} (members : List (Text × α)) {acc : Fields α} :
    name ∈ (members.foldl (fun fields (k, v) => put k v fields) acc).map Prod.fst ↔
      name ∈ acc.map Prod.fst ∨ name ∈ members.map Prod.fst := by
  induction members generalizing acc with
  | nil => simp
  | cons m members ih =>
    obtain ⟨k, v⟩ := m
    rw [List.foldl_cons, ih, mem_names_put, List.map_cons, List.mem_cons, eq_comm (a := k), or_assoc, or_left_comm]

end ClusterHarness.Fields
