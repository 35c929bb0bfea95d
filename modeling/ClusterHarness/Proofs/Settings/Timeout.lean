import ClusterHarness.Proofs.Number.Rounding
import ClusterHarness.Proofs.Results
import ClusterHarness.Settings.Bootstrap

/-!
Timeouts. A time value that is read is not below zero, and if it is small enough to be a floating number
the settings take it as a timeout.
-/

namespace ClusterHarness

open Time

namespace Time

namespace Seconds

def Nonneg : Seconds → Prop
  | .whole n => 0 ≤ n
  | .fraction x => x.isNegative = false

/-- For numbers that are not below zero. -/
def Below (bound : ℚ) : Seconds → Prop
  | .whole n => n < bound
  | .fraction x => x.isFinite = true ∧ x.magnitude < bound

end Seconds

theorem inSeconds_nonneg {amount : ℤ} {unit : TimeUnit} {s : Seconds} (hamount : 0 ≤ amount)
    (h : inSeconds amount unit = some s) : s.Nonneg := by
  cases unit with
  | seconds count =>
    rw [← Option.some.inj h]
    exact Int.mul_nonneg hamount (Int.natCast_nonneg count)
  | decimal power =>
    rw [inSeconds, Option.map_eq_some_iff] at h
    obtain ⟨x, hx, rfl⟩ := h
    have hsign := Binary64.isNegative_mul x (.ofRatio false 1 (Nat.pow 10 power))
    rw [Binary64.isNegative_ofInt? hamount hx, Binary64.isNegative_ofRatio] at hsign
    exact hsign

theorem parseInterval_nonneg {setting : Text} {value : Option Text} {s : Seconds}
    (h : parseInterval setting value = .ok s) : s.Nonneg := by
  unfold parseInterval at h
  split at h
  · cases h
  · next t amount unit _ =>
    split at h
    · cases h
    split at h
    · cases h
    · next hamount =>
      split at h
      · next seconds hseconds =>
        cases h
        exact inSeconds_nonneg (not_lt.mp hamount) hseconds
      · cases h

theorem ten_pow_le_two_pow : (10 : ℚ) ^ 300 ≤ 2 ^ (1023 : ℤ) := by
  calc (10 : ℚ) ^ 300 = (10 ^ 3) ^ 100 := by rw [← pow_mul]
    _ ≤ (2 ^ 10) ^ 100 := pow_le_pow_left₀ (by norm_num) (by norm_num) 100
    _ = 2 ^ 1000 := by rw [← pow_mul]
    _ ≤ 2 ^ 1023 := pow_le_pow_right₀ (by norm_num) (by norm_num)
    _ = 2 ^ (1023 : ℤ) := (zpow_ofNat 2 1023).symm

theorem ofInt?_of_lt {n : ℤ} (hn : 0 ≤ n) (h : (n : ℚ) < 10 ^ 300) :
    ∃ x, Binary64.ofInt? n = some x := by
  have hlt : ((n.natAbs : ℕ) : ℚ) / (1 : ℕ) < 2 ^ (1023 : ℤ) := by
    rw [Nat.cast_one, div_one]
    calc ((n.natAbs : ℕ) : ℚ) = ((n.natAbs : ℤ) : ℚ) := (Int.cast_natCast n.natAbs).symm
      _ = n := by rw [Int.natAbs_of_nonneg hn]
      _ < 10 ^ 300 := h
      _ ≤ 2 ^ (1023 : ℤ) := ten_pow_le_two_pow
  exact ⟨_, if_pos (Binary64.ofRatio_isFinite (decide (n < 0)) one_pos hlt)⟩

end Time

namespace RuntimeFlags

theorem number_of_nonneg {s : Seconds} (h : s.Nonneg) {x : Binary64} (hx : s.toBinary64? = some x) :
    x.isNegative = false := by
  cases s with
  | whole n => exact Binary64.isNegative_ofInt? h hx
  | fraction y => exact Option.some.inj hx ▸ h

theorem secondsTimeout_of_number {s : Seconds} (hnonneg : s.Nonneg) {x : Binary64}
    (hx : s.toBinary64? = some x) : ∃ timeout, secondsTimeout s = .ok timeout := by
  have habove : x.isBelowZero = false := by rw [Binary64.isBelowZero, number_of_nonneg hnonneg hx, Bool.false_and]
  refine ⟨if x.isZero then none else some x, ?_⟩
  rw [secondsTimeout, hx]
  simp only [ClientSettings.normalTimeout, habove, if_neg Bool.false_ne_true]
  rfl

theorem secondsTimeout_ok {s : Seconds} (hnonneg : s.Nonneg) (hbelow : s.Below (10 ^ 300)) :
    ∃ timeout, secondsTimeout s = .ok timeout := by
  have hnumber : ∃ x, s.toBinary64? = some x := by
    cases s with
    | whole n => exact ofInt?_of_lt hnonneg hbelow
    | fraction x => exact ⟨x, rfl⟩
  obtain ⟨x, hx⟩ := hnumber
  exact secondsTimeout_of_number hnonneg hx

/-- The timeout is unset, or a time value that is read and is small enough. -/
def AcceptsTimeout (flags : RuntimeFlags) : Prop :=
  ∀ t, flags.socketTimeout = some t →
    ∃ s, parseInterval timeoutSetting (some t) = .ok s ∧ s.Below (10 ^ 300)

theorem timeout_ok {flags : RuntimeFlags} (h : flags.AcceptsTimeout) :
    ∃ s timeout, flags.timeout = .ok s ∧ secondsTimeout s = .ok timeout := by
  have hread : ∃ s, parseInterval timeoutSetting (some (flags.socketTimeout.getD defaultTimeout)) = .ok s ∧
      s.Below (10 ^ 300) := by
    cases ht : flags.socketTimeout with
    | some t => exact h t ht
    | none =>
      refine ⟨.whole 60, by decide +kernel, ?_⟩
      calc ((60 : ℤ) : ℚ) < 10 ^ 2 := by norm_num
        _ ≤ 10 ^ 300 := pow_le_pow_right₀ (by norm_num) (by norm_num)
  obtain ⟨s, hs, hbelow⟩ := hread
  obtain ⟨timeout, htimeout⟩ := secondsTimeout_ok (parseInterval_nonneg hs) hbelow
  exact ⟨s, timeout, by rw [RuntimeFlags.timeout, hs, mapError_ok], htimeout⟩

end RuntimeFlags

end ClusterHarness
