import ClusterHarness.Proofs.Number.Numeral
import ClusterHarness.Proofs.Time.Civil
import ClusterHarness.Time.Timestamp

/-!
Whole milliseconds: the number of milliseconds that an instant is written as stands for the instant
rounded down, before 1970 as after it.
-/

namespace ClusterHarness.Time

namespace Instant

variable {t u : Instant}

/-- The last whole millisecond that is not after an instant. -/
def wholeMillis (t : Instant) : Instant := ⟨t.micros / 1000 * 1000, by have h := t.inCalendar; omega⟩

theorem eq_of_micros (h : t.micros = u.micros) : t = u := by
  cases t
  cases u
  cases h
  rfl

theorem wholeMillis_of_whole (h : t.micros % 1000 = 0) : t.wholeMillis = t := by
  apply eq_of_micros
  simp only [wholeMillis]
  omega

theorem epochMillis_eq (t : Instant) : t.epochMillis = (t.micros / 1000 : Nat) - 62135596800000 := by
  simp only [epochMillis, epochMicros, Int.fdiv_eq_ediv_of_nonneg _ (by decide : (0 : ℤ) ≤ 1000)]
  omega

theorem ofEpochMillis?_epochMillis (t : Instant) : ofEpochMillis? t.epochMillis = some t.wholeMillis := by
  rw [ofEpochMillis?, ofMicros?_eq_some, epochMillis_eq]
  simp only [epochMicros, wholeMillis]
  omega

theorem epochMillis_bounds (t : Instant) : -62135596800000 ≤ t.epochMillis ∧ t.epochMillis < 253402300800000 := by
  have hin := t.inCalendar
  rw [epochMillis_eq]
  simp only [endOfTime] at hin
  omega

end Instant

/-! ### Texts of 64-bit integers -/

@[simp] theorem instantOf_int (n : Int) : instantOf (.int n) = textInstant (Text.ofInt n) := rfl

@[simp] theorem instantOf_str (t : Text) : instantOf (.str t) = textInstant t := rfl

theorem long?_of_numeral {t : Text} {n : Numeral} (h : Numeral.ofText? t = some n) : long? t =
    if n.tooLong then .error ⟨n.digits.length⟩ else .ok (if isLong n.value then some n.value else none) := by
  simp only [long?, h]

theorem long?_of_no_numeral {t : Text} (h : Numeral.ofText? t = none) : long? t = .ok none := by
  simp only [long?, h]

theorem long?_ofInt {n : Int} (h : (Text.ofNat n.natAbs).length ≤ Numeral.maxDigits) :
    long? (Text.ofInt n) = .ok (if isLong n then some n else none) := by
  have hshort : (Numeral.ofInt n).tooLong = false := by
    rw [Numeral.tooLong, Numeral.length_digits_ofInt]
    exact decide_eq_false (Nat.not_lt.mpr h)
  rw [long?_of_numeral (Numeral.ofText?_ofInt n), hshort, if_neg Bool.false_ne_true, Numeral.value_ofInt]

theorem length_digits_of_isLong {n : Int} (h : isLong n) : (Text.ofNat n.natAbs).length ≤ Numeral.maxDigits := by
  have hbounds := isLong_iff.mp h
  have hlength : (Text.ofNat n.natAbs).length ≤ 19 := Text.length_ofNat_le (by decide) (by omega)
  exact hlength.trans (by decide)

theorem long?_of_isLong {n : Int} (h : isLong n) : long? (Text.ofInt n) = .ok (some n) := by
  rw [long?_ofInt (length_digits_of_isLong h), if_pos h]

/-- A text that goes on after its first digits is no integer. -/
theorem long?_of_more {t rest : Text} (h : ∀ c ∈ t, c.isAsciiDigit) (hne : t ≠ [])
    (hstop : Numeral.Stopped rest) (hrest : rest ≠ []) (hfeed : rest ≠ [10]) : long? (t ++ rest) = .ok none := by
  have hnone : ¬(rest = [] ∨ rest = [10]) := not_or.mpr ⟨hrest, hfeed⟩
  exact long?_of_no_numeral ((Numeral.ofText?_unsigned h hne hstop).trans (if_neg hnone))

theorem Instant.epochMillis_isLong (t : Instant) : isLong t.epochMillis := by
  have hbounds := t.epochMillis_bounds
  exact isLong_iff.mpr (by omega)

theorem textInstant_epochMillis (t : Instant) :
    textInstant (Text.ofInt t.epochMillis) = .ok t.wholeMillis := by
  simp only [textInstant, long?_of_isLong t.epochMillis_isLong, t.ofEpochMillis?_epochMillis]

end ClusterHarness.Time
