import ClusterHarness.Proofs.Json.Merging
import ClusterHarness.Proofs.Validation.Checks
import ClusterHarness.Validation.Model

/-!
Loose values that are dumped as they are. JSON has their numbers, UTF-8 has the names inside them, and
they are not too deep.
-/

namespace ClusterHarness

theorem Utf8.writeFrom_scalars (stray : CodePoint → Option UInt8) (start : Nat) {t : Text} (h : t.Scalars) :
    ∃ bs, writeFrom stray start t = .ok bs := by
  induction t generalizing start with
  | nil => exact ⟨[], rfl⟩
  | cons c t ih =>
    obtain ⟨bs, hbs⟩ := ih (start + 1) h.tail
    rw [writeFrom, h c List.mem_cons_self, hbs]
    exact ⟨_, rfl⟩

namespace Json

mutual

/-- Whether every number of a document is finite, and no text and no name in it has a surrogate. -/
def isClean : Json → Bool
  | .float x => x.isFinite
  | .str t => decide t.Scalars
  | .arr items => isCleanItems items
  | .obj fields => isCleanFields fields
  | _ => true

def isCleanItems : List Json → Bool
  | [] => true
  | v :: items => isClean v && isCleanItems items

def isCleanFields : List (Text × Json) → Bool
  | [] => true
  | (k, v) :: fields => decide k.Scalars && isClean v && isCleanFields fields

end

theorem isClean_arr {items : List Json} : isClean (.arr items) ↔ ∀ v ∈ items, isClean v := by
  rw [isClean]
  induction items with
  | nil => simp [isCleanItems]
  | cons v items ih => simp [isCleanItems, ih]

theorem isClean_obj {fields : List (Text × Json)} :
    isClean (.obj fields) ↔ ∀ f ∈ fields, f.1.Scalars ∧ isClean f.2 := by
  rw [isClean]
  induction fields with
  | nil => simp [isCleanFields]
  | cons f fields ih => simp [isCleanFields, ih]

theorem isClean_merged {v : Json} (h : v.isClean) : v.merged.isClean := by
  induction v using nested_induction with
  | arr items ih =>
    rw [merged_arr, isClean_arr]
    intro w hw
    obtain ⟨v, hv, rfl⟩ := List.mem_map.mp hw
    exact ih v hv (isClean_arr.mp h v hv)
  | obj fields ih =>
    rw [merged_obj, isClean_obj]
    intro g hg
    obtain ⟨f, hf, rfl⟩ := List.mem_map.mp hg
    have hmem : f ∈ fields := (Fields.ofList_spec fields).2 f hf
    obtain ⟨hname, hvalue⟩ := isClean_obj.mp h f hmem
    exact ⟨hname, ih f hmem hvalue⟩
  | _ => exact h

end Json

namespace Validation

theorem innerName_scalars {t : Text} (h : t.Scalars) : innerName t = .ok t := by
  obtain ⟨bs, hbs⟩ := Utf8.writeFrom_scalars (fun _ => none) 0 h
  rw [innerName, Utf8.write, hbs]
  rfl

theorem dumpItems_self {height : Nat} {items : List Json} (h : ∀ v ∈ items, dumpLoose height v = .ok v) :
    dumpItems height items = .ok items := by
  induction items with
  | nil => rfl
  | cons v items ih =>
    obtain ⟨hv, hitems⟩ := List.forall_mem_cons.mp h
    rw [dumpItems, hv, ih hitems]
    rfl

theorem dumpMembers_self {height : Nat} {fields : List (Text × Json)}
    (h : ∀ f ∈ fields, f.1.Scalars ∧ dumpLoose height f.2 = .ok f.2) :
    dumpMembers height fields = .ok fields := by
  induction fields with
  | nil => rfl
  | cons f fields ih =>
    obtain ⟨⟨hname, hvalue⟩, hfields⟩ := List.forall_mem_cons.mp h
    rw [dumpMembers, innerName_scalars hname, hvalue, ih hfields]
    rfl

theorem dumpLoose_self {v : Json} {height : Nat} (hclean : v.isClean) (hlow : v.nesting < height) :
    dumpLoose height v = .ok v := by
  induction v using Json.nested_induction generalizing height with
  | float x =>
    cases height with
    | zero => cases hlow
    | succ height =>
      rw [Json.isClean] at hclean
      rw [dumpLoose, finite, if_pos hclean]
  | arr items ih =>
    cases height with
    | zero => cases hlow
    | succ height =>
      have hitems : ∀ v ∈ items, dumpLoose height v = .ok v := fun v hv =>
        ih v hv (Json.isClean_arr.mp hclean v hv) (Json.nestingItems_le.mp (Nat.lt_succ_iff.mp hlow) v hv)
      rw [dumpLoose, dumpItems_self hitems]
      rfl
  | obj fields ih =>
    cases height with
    | zero => cases hlow
    | succ height =>
      have hfields : ∀ f ∈ fields, f.1.Scalars ∧ dumpLoose height f.2 = .ok f.2 := by
        intro f hf
        obtain ⟨hname, hvalue⟩ := Json.isClean_obj.mp hclean f hf
        exact ⟨hname, ih f hf hvalue (Json.nestingFields_le.mp (Nat.lt_succ_iff.mp hlow) f hf)⟩
      rw [dumpLoose, dumpMembers_self hfields]
      rfl
  | _ =>
    cases height with
    | zero => cases hlow
    | succ height => rfl

/-- A loose value that is the same after it is dumped and read again. -/
structure IsTidy (v : Json) : Prop where
  merged : v.merged = v
  clean : v.isClean
  shallow : v.nesting < maxHeight

namespace IsTidy

theorem of_merged {v : Json} (hclean : v.isClean) (hlow : v.nesting < maxHeight) : IsTidy v.merged where
  merged := v.merged_merged
  clean := Json.isClean_merged hclean
  shallow := Nat.lt_of_le_of_lt v.nesting_merged hlow

theorem item {items : List Json} (h : IsTidy (.arr items)) {v : Json} (hv : v ∈ items) : IsTidy v where
  merged := by
    have hmerged := h.merged
    rw [Json.merged_arr, Json.arr.injEq] at hmerged
    exact List.map_inj_left.mp (hmerged.trans (List.map_id _).symm) v hv
  clean := Json.isClean_arr.mp h.clean v hv
  shallow := Nat.lt_trans (Json.nestingItems_le.mp (Nat.le_refl _) v hv) h.shallow

variable {fields : Fields Json} (h : IsTidy (.obj fields))
include h

theorem nodup : (fields.map Prod.fst).Nodup := by
  have hmerged := h.merged
  rw [Json.merged_obj, Json.obj.injEq] at hmerged
  rw [← hmerged]
  exact Json.nodup_mergeMember fields

theorem mergeMember {f : Text × Json} (hf : f ∈ fields) : Json.mergeMember f = f := by
  have hmerged := h.merged
  rw [Json.merged_obj, Json.obj.injEq, Fields.ofList_of_nodup h.nodup] at hmerged
  exact List.map_inj_left.mp (hmerged.trans (List.map_id _).symm) f hf

theorem name {f : Text × Json} (hf : f ∈ fields) : f.1.Scalars := (Json.isClean_obj.mp h.clean f hf).1

theorem value {f : Text × Json} (hf : f ∈ fields) : IsTidy f.2 where
  merged := congrArg Prod.snd (h.mergeMember hf)
  clean := (Json.isClean_obj.mp h.clean f hf).2
  shallow := Nat.lt_trans (Json.nestingFields_le.mp (Nat.le_refl _) f hf) h.shallow

end IsTidy

theorem dumpLooseFields_self {fields : Fields Json} (h : ∀ f ∈ fields, IsTidy f.2) :
    dumpLooseFields fields = .ok fields := by
  refine mapM_eq_ok.mpr (List.forall₂_same.mpr fun f hf => ?_)
  exact map_eq_ok.mpr ⟨f.2, dumpLoose_self (h f hf).clean (h f hf).shallow, rfl⟩

end Validation

end ClusterHarness
