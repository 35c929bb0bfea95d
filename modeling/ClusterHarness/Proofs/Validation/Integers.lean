import ClusterHarness.Proofs.Json.Reading
import ClusterHarness.Proofs.Results
import ClusterHarness.Validation.Scalar

/-!
Integers of settings. However they are given, they have no more digits than can be read again.
-/

namespace ClusterHarness.Validation

open Validated

/-- The integer can be read from its decimal text. -/
def Writable (n : Int) : Prop := (Text.ofNat n.natAbs).length ≤ Json.maxDigits

theorem writable_of_lt {n : Int} (h : n.natAbs < 10 ^ Json.maxDigits) : Writable n :=
  Text.length_ofNat_le (by decide) h

theorem writable_of_isInsideLong {n : Int} (h : isInsideLong n) : Writable n := by
  simp only [isInsideLong, isLong, Bool.and_eq_true, decide_eq_true_eq] at h
  have hlong : n.natAbs < 10 ^ 20 := by omega
  exact writable_of_lt (hlong.trans_le (Nat.pow_le_pow_right (by decide) (by decide)))

theorem plainInteger_writable {t : Text} {n : Int} (h : plainInteger t = .value n) : Writable n := by
  unfold plainInteger at h
  dsimp only at h
  split at h
  · cases h
  · next ds rest hdigits =>
    split at h
    · cases h
    · next hshort =>
      split at h
      · cases h
      · have hlt := Text.digitsValue_lt (Json.wholeDigits?_spec hdigits).2.2
        have hvalue : n.natAbs = Json.digitsValue ds := by
          rw [← IntegerReading.value.inj h]
          split <;> omega
        refine writable_of_lt (hvalue ▸ hlt.trans_le ?_)
        exact Nat.pow_le_pow_right (by decide) (not_lt.mp hshort)

theorem integerText_writable {t : Text} {n : Int} (h : integerText t = .value n) : Writable n := by
  unfold integerText at h
  split at h
  · cases hloose : loosened? t with
    | none =>
      rw [hloose] at h
      cases h
    | some s =>
      rw [hloose] at h
      exact plainInteger_writable h
  · exact plainInteger_writable h

theorem readable_eq_ok {α : Type} {t : Text} {reading : Validated α} {x : α} (h : readable t reading = .ok x) :
    reading = .ok x := by
  unfold readable at h
  split at h
  · cases h
  · exact h

theorem integer_writable {dialect : Json.Dialect} {v : Json} {n : Int} (hv : v.isPortable dialect)
    (h : integer v = .ok n) : Writable n := by
  cases v with
  | int k =>
    cases h
    have hdigits : (Text.ofNat n.natAbs).length ≤ Json.maxDigits := of_decide_eq_true hv
    exact hdigits
  | bool b =>
    cases h
    refine writable_of_isInsideLong ?_
    cases b <;> decide
  | float x =>
    simp only [integer] at h
    split at h
    · cases h
    · split at h
      · cases h
      · split at h
        · next hlong =>
          cases h
          exact writable_of_isInsideLong hlong
        · cases h
  | str t =>
    have hread := readable_eq_ok h
    split at hread
    · next k hk =>
      cases hread
      exact integerText_writable hk
    · cases hread
    · cases hread
  | null => cases h
  | arr items => cases h
  | obj fields => cases h

end ClusterHarness.Validation
