import ClusterHarness.Proofs.Results
import ClusterHarness.Validation.Issue
import Mathlib.Data.List.Forall2

/-!
Checks made of others: what is accepted by the whole is what each of its parts accepts.
-/

namespace ClusterHarness

open Validation

theorem mapM_eq_ok {ε α β : Type} {f : α → Except ε β} {xs : List α} {ys : List β} :
    xs.mapM f = .ok ys ↔ List.Forall₂ (fun x y => f x = .ok y) xs ys := by
  induction xs generalizing ys with
  | nil =>
    rw [List.mapM_nil, List.forall₂_nil_left_iff]
    exact ⟨fun h => (Except.ok.inj h).symm, fun h => congrArg Except.ok h.symm⟩
  | cons x xs ih =>
    rw [List.mapM_cons, bind_eq_ok, List.forall₂_cons_left_iff]
    constructor
    · rintro ⟨y, hy, hrest⟩
      obtain ⟨rest, hxs, hpure⟩ := bind_eq_ok.mp hrest
      exact ⟨y, rest, hy, ih.mp hxs, (Except.ok.inj hpure).symm⟩
    · rintro ⟨y, rest, hy, hxs, rfl⟩
      exact ⟨y, hy, bind_eq_ok.mpr ⟨rest, ih.mpr hxs, rfl⟩⟩

theorem exists_mapM_eq_ok {ε α β : Type} {f : α → Except ε β} {xs : List α}
    (h : ∀ x ∈ xs, ∃ y, f x = .ok y) : ∃ ys, xs.mapM f = .ok ys := by
  induction xs with
  | nil => exact ⟨[], rfl⟩
  | cons x xs ih =>
    rw [List.forall_mem_cons] at h
    obtain ⟨y, hy⟩ := h.1
    obtain ⟨ys, hys⟩ := ih h.2
    exact ⟨y :: ys, mapM_eq_ok.mpr (.cons hy (mapM_eq_ok.mp hys))⟩

namespace Validated

variable {α β : Type}

theorem both_eq_ok {a : Validated α} {b : Validated β} {x : α} {y : β} :
    both a b = .ok (x, y) ↔ a = .ok x ∧ b = .ok y := by
  cases a <;> cases b <;> simp [both]

theorem within_eq_ok {step : Step} {a : Validated α} {x : α} : within step a = .ok x ↔ a = .ok x :=
  mapError_eq_ok

theorem withDefault_eq_ok {fields : Fields Json} {name : Text} {default x : α}
    {check : Json → Validated α} (h : withDefault fields name default check = .ok x) :
    x = default ∨ ∃ v, fields.get? name = some v ∧ check v = .ok x := by
  unfold withDefault at h
  split at h
  · next v hv => exact .inr ⟨v, hv, within_eq_ok.mp h⟩
  · cases h
    exact .inl rfl

theorem withDefault_of_get? {fields : Fields Json} {name : Text} {default x : α} {check : Json → Validated α}
    {v : Json} (hv : fields.get? name = some v) (h : check v = .ok x) :
    withDefault fields name default check = .ok x := by
  rw [withDefault, hv]
  exact within_eq_ok.mpr h

theorem required_eq_ok {fields : Fields Json} {name : Text} {x : α} {check : Json → Validated α} :
    required fields name check = .ok x ↔ ∃ v, fields.get? name = some v ∧ check v = .ok x := by
  rw [required, within_eq_ok]
  cases fields.get? name with
  | none => simp [refuse]
  | some v => simp

theorem each_map {check : Json → Validated α} (put : α → Json) (h : ∀ x, check (put x) = .ok x) (xs : List α)
    (position : Nat) : each check position (xs.map put) = .ok xs := by
  induction xs generalizing position with
  | nil => rfl
  | cons x xs ih => rw [List.map_cons, each, h, ih]; rfl

theorem eachMember_map {check : Json → Validated α} (put : α → Json) (h : ∀ x, check (put x) = .ok x)
    (fields : Fields α) : eachMember check (fields.map fun f => (f.1, put f.2)) = .ok fields := by
  induction fields with
  | nil => rfl
  | cons f fields ih => rw [List.map_cons, eachMember, h, ih]; rfl

end Validated

end ClusterHarness
