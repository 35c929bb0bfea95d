import ClusterHarness.Proofs.Results
import ClusterHarness.Proofs.Time.Millis

/-!
Texts that hold a 64-bit integer. The check for one answers, accepts exactly these texts, and the integer
that it accepts is the one that is read; it errs for digits beyond the limit, although zeros at their head
may be what makes them so many, and for a line feed at the end.
-/

namespace ClusterHarness.Time

open Numeral

variable {t s : Text} {n : Int} {amount : Numeral}

/-- A sign or none and decimal digits, the first of them the highest, that come to the integer. -/
def IsInteger (t : Text) (n : Int) : Prop :=
  ∃ amount : Numeral, amount.WrittenAs t ∧
    n = (if amount.negative then -1 else 1) * (Nat.ofDigits 10 amount.digits.reverse : Nat)

structure HoldsLong (t : Text) (n : Int) : Prop where
  integer : IsInteger t n
  lower : -2 ^ 63 ≤ n
  upper : n ≤ 2 ^ 63 - 1

/-- The check answers, accepts the text if it holds a 64-bit integer and only then, and that one is read. -/
structure TellsLong (t : Text) : Prop where
  total : ∃ answer, isLongText (.str t) = .ok answer
  accepts : isLongText (.str t) = .ok true ↔ ∃ n, HoldsLong t n
  reads : isLongText (.str t) = .ok true → ∀ n, IsInteger t n → long? t = .ok (some n)

/-- The digits, zeros at their head included, are more than are turned into a number. -/
def IsOverlong (t : Text) : Prop := ∃ amount : Numeral, amount.IsLine t ∧ maxDigits < amount.digits.length

def IsFed (t : Text) : Prop := ∃ s n, t = s ++ [lineFeed] ∧ HoldsLong s n

structure LongCheck (t : Text) : Prop where
  tells : TellsLong t ↔ ¬IsOverlong t ∧ ¬IsFed t
  overlong : ∀ limit, isLongText (.str t) = .error limit ↔
    ∃ amount : Numeral, amount.IsLine t ∧ maxDigits < amount.digits.length ∧ limit = ⟨amount.digits.length⟩
  fed : ∀ s n, t = s ++ [lineFeed] → HoldsLong s n → ¬IsOverlong t →
    isLongText (.str t) = .ok true ∧ long? t = .ok (some n)

/-! ### Values -/

theorem value_eq (amount : Numeral) :
    amount.value = (if amount.negative then -1 else 1) * (Nat.ofDigits 10 amount.digits.reverse : Nat) := by
  rw [Numeral.value, magnitude_eq_ofDigits]
  cases amount.negative <;> simp

theorem isInteger_iff : IsInteger t n ↔ ∃ amount : Numeral, amount.WrittenAs t ∧ amount.value = n := by
  simp only [IsInteger, value_eq, eq_comm]

theorem holdsLong_iff : HoldsLong t n ↔ ∃ amount : Numeral, amount.WrittenAs t ∧ amount.value = n ∧ isLong n := by
  constructor
  · rintro ⟨hinteger, hlower, hupper⟩
    obtain ⟨amount, hwritten, hvalue⟩ := isInteger_iff.mp hinteger
    exact ⟨amount, hwritten, hvalue, isLong_iff.mpr ⟨hlower, hupper⟩⟩
  · rintro ⟨amount, hwritten, hvalue, hlong⟩
    obtain ⟨hlower, hupper⟩ := isLong_iff.mp hlong
    exact ⟨isInteger_iff.mpr ⟨amount, hwritten, hvalue⟩, hlower, hupper⟩

theorem isLine_long_iff : (∃ amount : Numeral, amount.IsLine t ∧ amount.value = n ∧ isLong n) ↔
    HoldsLong t n ∨ ∃ s, t = s ++ [lineFeed] ∧ HoldsLong s n := by
  simp only [holdsLong_iff]
  constructor
  · rintro ⟨amount, hwritten | ⟨s, hs, hwritten⟩, hlong⟩
    · exact .inl ⟨amount, hwritten, hlong⟩
    · exact .inr ⟨s, hs, amount, hwritten, hlong⟩
  · rintro (⟨amount, hwritten, hlong⟩ | ⟨s, hs, amount, hwritten, hlong⟩)
    · exact ⟨amount, .inl hwritten, hlong⟩
    · exact ⟨amount, .inr ⟨s, hs, hwritten⟩, hlong⟩

theorem not_isInteger_lineFeed : ¬IsInteger (s ++ [lineFeed]) n := by
  rintro ⟨amount, hwritten, -⟩
  exact not_writtenAs_lineFeed hwritten

theorem IsInteger.unique {m : Int} (h : IsInteger t n) (h' : IsInteger t m) : n = m := by
  obtain ⟨amount, hwritten, rfl⟩ := isInteger_iff.mp h
  obtain ⟨other, hother, rfl⟩ := isInteger_iff.mp h'
  rw [IsLine.unique (.inl hwritten) (.inl hother)]

/-! ### The check -/

theorem isLongText_eq_true : isLongText (.str t) = .ok true ↔ ∃ n, long? t = .ok (some n) := by
  simp only [isLongText, map_eq_ok, Option.isSome_iff_exists]
  constructor
  · rintro ⟨_, hread, n, rfl⟩
    exact ⟨n, hread⟩
  · rintro ⟨n, hread⟩
    exact ⟨some n, hread, n, rfl⟩

theorem isLongText_eq_error {limit : DigitLimit} :
    isLongText (.str t) = .error limit ↔ long? t = .error limit := by
  rw [isLongText]
  cases long? t <;> simp [Except.map]

theorem long?_of_isLine (h : amount.IsLine t) : long? t =
    if amount.tooLong then .error ⟨amount.digits.length⟩
    else .ok (if isLong amount.value then some amount.value else none) :=
  long?_of_numeral (ofText?_eq_some.mpr h)

theorem exists_isLine (h : long? t ≠ .ok none) : ∃ amount : Numeral, amount.IsLine t := by
  cases hread : ofText? t with
  | none => exact absurd (long?_of_no_numeral hread) h
  | some amount => exact ⟨amount, ofText?_eq_some.mp hread⟩

theorem long?_eq_error {limit : DigitLimit} : long? t = .error limit ↔
    ∃ amount : Numeral, amount.IsLine t ∧ maxDigits < amount.digits.length ∧ limit = ⟨amount.digits.length⟩ := by
  constructor
  · intro h
    have hread : long? t ≠ .ok none := by simp [h]
    obtain ⟨amount, hline⟩ := exists_isLine hread
    rw [long?_of_isLine hline] at h
    split at h
    · next htooLong =>
      cases h
      exact ⟨amount, hline, of_decide_eq_true htooLong, rfl⟩
    · cases h
  · rintro ⟨amount, hline, hlength, rfl⟩
    rw [long?_of_isLine hline]
    exact if_pos (decide_eq_true hlength)

theorem long?_eq_some : long? t = .ok (some n) ↔
    ¬IsOverlong t ∧ (HoldsLong t n ∨ ∃ s, t = s ++ [lineFeed] ∧ HoldsLong s n) := by
  rw [← isLine_long_iff]
  constructor
  · intro h
    have hread : long? t ≠ .ok none := by simp [h]
    obtain ⟨amount, hline⟩ := exists_isLine hread
    have hshort : ¬IsOverlong t := by
      rintro ⟨other, hother, hlength⟩
      rw [long?_eq_error.mpr ⟨other, hother, hlength, rfl⟩] at h
      cases h
    rw [long?_of_isLine hline] at h
    split at h
    · cases h
    · split at h
      · next hlong =>
        cases h
        exact ⟨hshort, amount, hline, rfl, hlong⟩
      · cases h
  · rintro ⟨hshort, amount, hline, rfl, hlong⟩
    have htooLong : ¬amount.tooLong = true := fun hlength => hshort ⟨amount, hline, of_decide_eq_true hlength⟩
    rw [long?_of_isLine hline, if_neg htooLong, if_pos hlong]

theorem isOverlong_iff : IsOverlong t ↔ ∃ limit, isLongText (.str t) = .error limit := by
  simp only [isLongText_eq_error, long?_eq_error, IsOverlong]
  constructor
  · rintro ⟨amount, hline, hlength⟩
    exact ⟨_, amount, hline, hlength, rfl⟩
  · rintro ⟨_, amount, hline, hlength, -⟩
    exact ⟨amount, hline, hlength⟩

theorem answers_iff : (∃ answer, isLongText (.str t) = .ok answer) ↔ ¬IsOverlong t := by
  rw [isOverlong_iff]
  cases isLongText (.str t) <;> simp

theorem long?_of_fed (h : HoldsLong s n) (hshort : ¬IsOverlong (s ++ [lineFeed])) :
    long? (s ++ [lineFeed]) = .ok (some n) :=
  long?_eq_some.mpr ⟨hshort, .inr ⟨s, rfl, h⟩⟩

theorem tellsLong (hshort : ¬IsOverlong t) (hfed : ¬IsFed t) : TellsLong t := by
  have hholds : ∀ {n}, long? t = .ok (some n) → HoldsLong t n := by
    intro n hread
    obtain ⟨-, h | ⟨s, hs, h⟩⟩ := long?_eq_some.mp hread
    · exact h
    · exact absurd ⟨s, n, hs, h⟩ hfed
  refine ⟨answers_iff.mpr hshort, ?_, ?_⟩
  · rw [isLongText_eq_true]
    constructor
    · rintro ⟨n, hread⟩
      exact ⟨n, hholds hread⟩
    · rintro ⟨n, h⟩
      exact ⟨n, long?_eq_some.mpr ⟨hshort, .inl h⟩⟩
  · intro haccepted n hinteger
    obtain ⟨m, hread⟩ := isLongText_eq_true.mp haccepted
    rwa [hinteger.unique (hholds hread).integer]

/-- Texts are told as they should be but for digits beyond the limit, which are an error, and a line feed after
a 64-bit integer, which is passed over. -/
theorem long_texts_are_told (t : Text) : LongCheck t where
  tells := by
    constructor
    · intro htells
      have hshort := answers_iff.mp htells.total
      refine ⟨hshort, ?_⟩
      rintro ⟨s, n, rfl, h⟩
      -- what is accepted would have to be an integer with its line feed
      obtain ⟨m, hm⟩ := htells.accepts.mp (isLongText_eq_true.mpr ⟨n, long?_of_fed h hshort⟩)
      exact not_isInteger_lineFeed hm.integer
    · rintro ⟨hshort, hfed⟩
      exact tellsLong hshort hfed
  overlong limit := isLongText_eq_error.trans long?_eq_error
  fed := by
    rintro s n rfl h hshort
    have hread := long?_of_fed h hshort
    exact ⟨isLongText_eq_true.mpr ⟨n, hread⟩, hread⟩

example : long? "-٤٢" = .ok (some (-42)) := by decide +kernel

/-! ### Texts that are told wrongly -/

def zeroText (count : Nat) : Text := List.replicate count (CodePoint.ofChar '0')

theorem zeroText_writtenAs {count : Nat} (h : count ≠ 0) :
    WrittenAs ⟨false, List.replicate count 0⟩ (zeroText count) := by
  refine @WrittenAs.mk ⟨false, List.replicate count 0⟩ [] (zeroText count) (by simp [signs]) ?_ (by simpa using h)
  rw [Spells, zeroText, List.map_replicate, List.map_replicate]
  rfl

theorem zeroText_holdsLong {count : Nat} (h : count ≠ 0) : HoldsLong (zeroText count) 0 where
  integer := ⟨_, zeroText_writtenAs h, by simp [List.reverse_replicate, Nat.ofDigits_replicate_zero]⟩
  lower := by decide
  upper := by decide

theorem isLongText_zeroText {count : Nat} (h : maxDigits < count) :
    isLongText (.str (zeroText count)) = .error ⟨count⟩ := by
  have hwritten := zeroText_writtenAs (Nat.ne_of_gt (Nat.zero_lt_of_lt h))
  refine isLongText_eq_error.mpr (long?_eq_error.mpr ⟨_, .inl hwritten, ?_⟩)
  rw [List.length_replicate]
  exact ⟨h, rfl⟩

/-- One with a line feed is accepted, and zero in 4301 digits is an error. -/
theorem some_texts_are_told_wrongly :
    (isLongText (.str "1\n") = .ok true ∧ ∀ n, ¬IsInteger "1\n" n) ∧
      HoldsLong (zeroText 4301) 0 ∧ isLongText (.str (zeroText 4301)) = .error ⟨4301⟩ := by
  refine ⟨⟨by decide +kernel, fun n => ?_⟩, zeroText_holdsLong (by decide), isLongText_zeroText (by decide)⟩
  exact @not_isInteger_lineFeed (Text.ofString "1") n

end ClusterHarness.Time
