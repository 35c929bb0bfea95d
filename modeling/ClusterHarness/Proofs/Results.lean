import Mathlib.Logic.Basic

/-!
Results that are values or errors: what each part of a computation ended with.
-/

namespace ClusterHarness

theorem bind_eq_ok {ε α β : Type} {x : Except ε α} {f : α → Except ε β} {b : β} :
    (x >>= f) = .ok b ↔ ∃ a, x = .ok a ∧ f a = .ok b := by
  cases x <;> simp [bind, Except.bind]

theorem bind_eq_error {ε α β : Type} {x : Except ε α} {f : α → Except ε β} {e : ε} :
    (x >>= f) = .error e ↔ x = .error e ∨ ∃ a, x = .ok a ∧ f a = .error e := by
  cases x <;> simp [bind, Except.bind]

@[simp] theorem mapError_ok {ε δ α : Type} (f : ε → δ) (a : α) :
    (Except.ok a : Except ε α).mapError f = .ok a := rfl

@[simp] theorem mapError_error {ε δ α : Type} (f : ε → δ) (e : ε) :
    (Except.error e : Except ε α).mapError f = .error (f e) := rfl

theorem mapError_eq_ok {ε δ α : Type} {x : Except ε α} {f : ε → δ} {a : α} :
    x.mapError f = .ok a ↔ x = .ok a := by
  cases x <;> simp

theorem mapError_eq_error {ε δ α : Type} {x : Except ε α} {f : ε → δ} {e : δ} :
    x.mapError f = .error e ↔ ∃ d, x = .error d ∧ f d = e := by
  cases x <;> simp

theorem map_eq_ok {ε α β : Type} {x : Except ε α} {f : α → β} {b : β} :
    x.map f = .ok b ↔ ∃ a, x = .ok a ∧ f a = b := by
  cases x <;> simp [Except.map]

section Escapes

variable {ε α β : Type} {blamed : ε → Prop}

/-- The computation ends with an error that is none of those meant. -/
def Escapes (blamed : ε → Prop) (x : Except ε α) : Prop := ∃ e, ¬blamed e ∧ x = .error e

@[simp] theorem not_escapes_ok (a : α) : ¬Escapes blamed (.ok a) := nofun

@[simp] theorem escapes_error {e : ε} : Escapes blamed (.error e : Except ε α) ↔ ¬blamed e := by
  constructor
  · rintro ⟨d, hd, heq⟩
    cases heq
    exact hd
  · exact fun h => ⟨e, h, rfl⟩

theorem not_escapes_error {e : ε} (h : blamed e) : ¬Escapes blamed (.error e : Except ε α) :=
  fun hescapes => escapes_error.mp hescapes h

theorem escapes_bind {x : Except ε α} {f : α → Except ε β} :
    Escapes blamed (x >>= f) ↔ Escapes blamed x ∨ ∃ a, x = .ok a ∧ Escapes blamed (f a) := by
  cases x <;> simp [bind, Except.bind]

end Escapes

/-! ### The first that is bad -/

/-- A member is bad, and those before it are good. -/
def UpTo {α : Type} (good bad : α → Prop) (xs : List α) : Prop :=
  ∃ before x after, xs = before ++ x :: after ∧ (∀ b ∈ before, good b) ∧ bad x

section UpTo

variable {α β ε : Type} {good bad : α → Prop} {blamed : ε → Prop}

end UpTo

/-! ### Two results alike -/

/-- Both end with the same error, or with values that are related. -/
inductive EndAlike {ε α β : Type} (R : α → β → Prop) : Except ε α → Except ε β → Prop
  | error (e : ε) : EndAlike R (.error e) (.error e)
  | ok {a : α} {b : β} : R a b → EndAlike R (.ok a) (.ok b)

namespace EndAlike

variable {ε α β γ δ : Type} {R : α → β → Prop} {S : γ → δ → Prop} {x : Except ε α} {y : Except ε β}

theorem of_eq (x : Except ε α) : EndAlike Eq x x := by
  cases x with
  | error e => exact .error e
  | ok a => exact .ok rfl

theorem bind {f : α → Except ε γ} {g : β → Except ε δ} (h : EndAlike R x y)
    (hf : ∀ a b, R a b → EndAlike S (f a) (g b)) : EndAlike S (x >>= f) (y >>= g) := by
  cases h with
  | error e => exact .error e
  | ok h => exact hf _ _ h

theorem mapError {φ : Type} (f : ε → φ) (h : EndAlike R x y) : EndAlike R (x.mapError f) (y.mapError f) := by
  cases h with
  | error e => exact .error (f e)
  | ok h => exact .ok h

theorem mono {S : α → β → Prop} (h : EndAlike R x y) (hS : ∀ a b, R a b → S a b) : EndAlike S x y := by
  cases h with
  | error e => exact .error e
  | ok h => exact .ok (hS _ _ h)

theorem map {f : α → γ} {g : β → δ} (h : EndAlike R x y) (hf : ∀ a b, R a b → S (f a) (g b)) :
    EndAlike S (x.map f) (y.map g) := by
  cases h with
  | error e => exact .error e
  | ok h => exact .ok (hf _ _ h)

end EndAlike

end ClusterHarness
