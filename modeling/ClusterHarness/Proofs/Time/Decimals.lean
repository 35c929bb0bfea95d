import ClusterHarness.Proofs.Time.Forms
import Mathlib.Data.List.TakeWhile

/-!
Timestamps in decimal digits. An integer and its decimal texts, whatever their sign and leading zeros,
count the same milliseconds; where the calendar has no such instant, all of them are refused, and a text
of more than 64 bits is no date for ISO 8601 either, for it has no offset.
-/

namespace ClusterHarness.Time

def TimestampError.IsOfValue : TimestampError → Prop
  | .beyondCalendar => False
  | _ => True

/-! ### Texts without an offset -/

namespace IsoText

theorem time?_offset {s : Bytes} (h : ∀ b ∈ s, startsOffset b = false) {clock : Clock} {offset : Option Int}
    (hread : time? s = some (clock, offset)) : offset = none := by
  have hlead : s.takeWhile (!startsOffset ·) = s := List.takeWhile_eq_self_iff.mpr (by simpa using h)
  simp only [time?, hlead, List.drop_length] at hread
  obtain ⟨⟨found, more⟩, -, hrest⟩ := Option.bind_eq_some_iff.mp hread
  cases more with
  | true => cases hrest
  | false =>
    cases hrest
    rfl

theorem parts?_offset {t : Text} (h : ∀ b ∈ Utf8.encode (plainSeparator t), startsOffset b = false)
    {civil : Civil} {offset : Option Int} (hread : parts? t = some (civil, offset)) : offset = none := by
  unfold parts? at hread
  dsimp only at hread
  split at hread
  · cases hread
  obtain ⟨date, -, hrest⟩ := Option.bind_eq_some_iff.mp hread
  split at hrest
  · obtain ⟨⟨clock, found⟩, htime, heq⟩ := Option.bind_eq_some_iff.mp hrest
    cases heq
    exact time?_offset (fun b hb => h b (List.mem_of_mem_drop (List.mem_of_mem_drop hb))) htime
  · cases hrest
    rfl

theorem parts?_digits {ds : Text} (h : ∀ c ∈ ds, c.isAsciiDigit) {civil : Civil} {offset : Option Int}
    (hread : parts? ds = some (civil, offset)) : offset = none := by
  have hascii := Text.isAscii_of_digits h
  refine parts?_offset (fun b hb => ?_) hread
  rw [plainSeparator_of_scalars hascii.not_surrogate, Utf8.encode_ascii hascii] at hb
  obtain ⟨c, hc, rfl⟩ := List.mem_map.mp hb
  exact startsOffset_of_isDigit (isDigit_ofNat (h c hc))

end IsoText

theorem isoInstant_unzoned {t : Text} (h : ∀ {z}, readIso (spellOffset t) = .ok z → z.offset = none) :
    ∃ e, e.IsOfValue ∧ isoInstant t = .error e := by
  cases hread : readIso (spellOffset t) with
  | error e =>
    cases e with
    | malformed => exact ⟨.malformed (spellOffset t), trivial, by simp only [isoInstant, hread]⟩
    | civil fault => exact ⟨.badPart fault, trivial, by simp only [isoInstant, hread]⟩
    | offset micros => exact ⟨.badOffset micros, trivial, by simp only [isoInstant, hread]⟩
  | ok z =>
    refine ⟨.noOffset t, trivial, ?_⟩
    simp only [isoInstant, hread, h hread, Option.isNone_none, if_true]

theorem readIso_offset {t : Text} (h : ∀ {civil offset}, IsoText.parts? t = some (civil, offset) → offset = none)
    {z : ZonedTime} (hread : readIso t = .ok z) : z.offset = none := by
  unfold readIso at hread
  split at hread
  · cases hread
  next civil offset hparts =>
  obtain rfl := h hparts
  simp only [Option.any_none, Bool.false_eq_true, if_false] at hread
  split at hread
  · cases hread
  · cases hread
    rfl

/-! ### Decimal texts -/

/-- The text of an integer in at least so many digits. Only a negative one needs a sign. -/
def decimalText (plus : Bool) (width : Nat) (n : Int) : Text :=
  let digits := padded width n.natAbs
  if n < 0 then CodePoint.ofChar '-' :: digits else if plus then CodePoint.ofChar '+' :: digits else digits

theorem decimalText_plain (n : Int) : decimalText false 0 n = Text.ofInt n := by
  have hpadded : ∀ k, padded 0 k = Text.ofNat k := fun k => padded_of_long (Nat.zero_le _)
  cases n with
  | ofNat k => simp [decimalText, hpadded, Text.ofInt]
  | negSucc k => simp [decimalText, hpadded, Text.ofInt, Int.negSucc_lt_zero]

theorem decimalText_cases (plus : Bool) (width : Nat) (n : Int) :
    decimalText plus width n = padded width n.natAbs ∧ 0 ≤ n ∨
      ∃ negative, decimalText plus width n =
        CodePoint.ofChar (if negative then '-' else '+') :: padded width n.natAbs ∧
          (negative = true ↔ n < 0) := by
  unfold decimalText
  dsimp only
  split
  · next hneg => exact .inr ⟨true, rfl, iff_of_true rfl hneg⟩
  next hpos =>
  split
  · exact .inr ⟨false, rfl, iff_of_false Bool.false_ne_true hpos⟩
  · exact .inl ⟨rfl, by omega⟩

theorem isoInstant_decimalText (plus : Bool) (width : Nat) (n : Int) :
    ∃ e, e.IsOfValue ∧ isoInstant (decimalText plus width n) = .error e := by
  have hdigits := padded_digits width n.natAbs
  have hne := padded_ne_nil width n.natAbs
  refine isoInstant_unzoned fun hread => ?_
  rcases decimalText_cases plus width n with ⟨htext, -⟩ | ⟨negative, htext, -⟩
  · rw [htext, ← List.nil_append (padded width n.natAbs), spellOffset_digits [] hdigits hne] at hread
    exact readIso_offset (IsoText.parts?_digits hdigits) hread
  · -- the sign stands where the first digit of the year is looked for
    have hascii : Text.IsAscii
        (CodePoint.ofChar (if negative then '-' else '+') :: padded width n.natAbs) := by
      refine List.forall_mem_cons.mpr ⟨?_, padded_ascii width n.natAbs⟩
      cases negative <;> decide
    rw [htext, ← List.singleton_append, spellOffset_digits _ hdigits hne, List.singleton_append,
      readIso_of_mem hascii List.mem_cons_self (by cases negative <;> rfl)] at hread
    cases hread

def decimalNumeral (width : Nat) (n : Int) : Numeral :=
  ⟨n < 0, Numeral.digitValues (padded width n.natAbs)⟩

theorem ofText?_decimalText (plus : Bool) (width : Nat) (n : Int) :
    Numeral.ofText? (decimalText plus width n) = some (decimalNumeral width n) := by
  have hdigits := padded_digits width n.natAbs
  have hne := padded_ne_nil width n.natAbs
  rcases decimalText_cases plus width n with ⟨htext, hsign⟩ | ⟨negative, htext, hsign⟩
  · have hread := Numeral.ofText?_unsigned hdigits hne Numeral.stopped_nil
    rw [List.append_nil, if_pos (.inl rfl)] at hread
    rw [htext, hread, decimalNumeral, decide_eq_false (by omega)]
  · rw [htext, Numeral.ofText?_signed negative hdigits hne, decimalNumeral]
    congr 2
    exact Bool.eq_iff_iff.mpr (by rw [hsign, decide_eq_true_iff])

theorem value_decimalNumeral (width : Nat) (n : Int) : (decimalNumeral width n).value = n := by
  simp only [decimalNumeral, Numeral.value, Numeral.magnitude_digitValues, digitsValue_padded,
    decide_eq_true_eq]
  split <;> omega

theorem length_decimalNumeral (width : Nat) (n : Int) :
    (decimalNumeral width n).digits.length = max width (Text.ofNat n.natAbs).length := by
  rw [decimalNumeral, Numeral.digitValues, List.length_map, padded, List.length_append, List.length_replicate]
  omega

/-! ### Milliseconds -/

/-- The civil time of an instant so many milliseconds after the start of 1970. -/
def Civil.CountsMillis (c : Civil) (n : Int) : Prop :=
  ∃ start micros, epoch.Shows start ∧ c.Shows micros ∧ (micros : ℤ) = start + 1000 * n

theorem Civil.CountsMillis.exists_instant {c : Civil} {n : Int} (h : c.CountsMillis n) (hyear : c.date.year ≤ maxYear) :
    ∃ i : Instant, Instant.ofEpochMillis? n = some i := by
  obtain ⟨start, micros, hstart, hshows, hmicros⟩ := h
  have hepoch : (start : ℤ) = epochMicros := hstart.toMicros.symm.trans epoch_shows.toMicros
  refine ⟨⟨micros, hshows.year_le.mp hyear⟩, ?_⟩
  rw [Instant.ofEpochMillis?, Instant.ofMicros?_eq_some, hmicros, hepoch, Int.mul_comm]

theorem Instant.countsMillis {i : Instant} {n : Int} (h : ofEpochMillis? n = some i) : i.civil.CountsMillis n := by
  refine ⟨epochMicros, i.micros, epoch_shows, i.civil_shows, ?_⟩
  rw [ofEpochMillis?, ofMicros?_eq_some] at h
  rw [← h, Int.mul_comm]

theorem isLong_of_ofEpochMillis? {n : Int} {i : Instant} (h : Instant.ofEpochMillis? n = some i) : isLong n := by
  have hin := i.inCalendar
  rw [Instant.ofEpochMillis?, Instant.ofMicros?_eq_some] at h
  simp only [epochMicros, endOfTime] at h hin
  exact isLong_iff.mpr (by omega)

/-- The timestamp stands for the instant so many milliseconds after the start of 1970, and is refused if
that is in no year of the calendar. -/
def StandsForMillis (raw : Json) (n : Int) : Prop :=
  (∃ i : Instant, i.civil.CountsMillis n ∧ instantOf raw = .ok i) ∨
    (¬∃ c : Civil, c.date.year ≤ maxYear ∧ c.CountsMillis n) ∧
      ∃ e, e.IsOfValue ∧ instantOf raw = .error e

theorem textInstant_decimalText_of_some (plus : Bool) {width : Nat} (hwidth : width ≤ Numeral.maxDigits) {n : Int}
    {i : Instant} (h : Instant.ofEpochMillis? n = some i) : textInstant (decimalText plus width n) = .ok i := by
  have hlong := isLong_of_ofEpochMillis? h
  have hshort : (decimalNumeral width n).tooLong = false := by
    rw [Numeral.tooLong, length_decimalNumeral]
    exact decide_eq_false (Nat.not_lt.mpr (Nat.max_le.mpr ⟨hwidth, length_digits_of_isLong hlong⟩))
  have hread := long?_of_numeral (ofText?_decimalText plus width n)
  simp [textInstant, hread, hshort, value_decimalNumeral, hlong, h]

theorem textInstant_decimalText_of_none (plus : Bool) (width : Nat) {n : Int}
    (h : Instant.ofEpochMillis? n = none) : ∃ e, e.IsOfValue ∧ textInstant (decimalText plus width n) = .error e := by
  have hread := long?_of_numeral (ofText?_decimalText plus width n)
  cases htooLong : (decimalNumeral width n).tooLong with
  | true =>
    refine ⟨.tooManyDigits ⟨(decimalNumeral width n).digits.length⟩, trivial, ?_⟩
    simp only [textInstant, hread, htooLong, if_true]
  | false =>
    cases hlong : isLong n with
    | true =>
      refine ⟨.outOfRange (decimalText plus width n), trivial, ?_⟩
      simp [textInstant, hread, htooLong, value_decimalNumeral, hlong, h]
    | false =>
      obtain ⟨e, he, hiso⟩ := isoInstant_decimalText plus width n
      refine ⟨e, he, ?_⟩
      simp [textInstant, hread, htooLong, value_decimalNumeral, hlong, hiso]

theorem standsForMillis_of_decimalText {raw : Json} (plus : Bool) {width : Nat} (hwidth : width ≤ Numeral.maxDigits)
    {n : Int} (hraw : instantOf raw = textInstant (decimalText plus width n)) : StandsForMillis raw n := by
  cases h : Instant.ofEpochMillis? n with
  | some i => exact .inl ⟨i, i.countsMillis h, hraw.trans (textInstant_decimalText_of_some plus hwidth h)⟩
  | none =>
    refine .inr ⟨?_, hraw ▸ textInstant_decimalText_of_none plus width h⟩
    rintro ⟨c, hyear, hmillis⟩
    obtain ⟨i, hi⟩ := hmillis.exists_instant hyear
    rw [h] at hi
    cases hi

/-- An integer, its decimal text, and the same with zeros or a plus in front all stand for so many
milliseconds, and as ISO 8601 none of the texts is read. -/
theorem decimals_agree (n : Int) (plus : Bool) {width : Nat} (hwidth : width ≤ Numeral.maxDigits) :
    StandsForMillis (.int n) n ∧ StandsForMillis (.str (Text.ofInt n)) n ∧
      StandsForMillis (.str (decimalText plus width n)) n ∧
      ∃ e, e.IsOfValue ∧ isoInstant (decimalText plus width n) = .error e := by
  refine ⟨?_, ?_, standsForMillis_of_decimalText plus hwidth rfl, isoInstant_decimalText plus width n⟩
  · exact standsForMillis_of_decimalText false (Nat.zero_le _) (by rw [decimalText_plain, instantOf_int])
  · exact standsForMillis_of_decimalText false (Nat.zero_le _) (by rw [decimalText_plain, instantOf_str])

/-- The last millisecond before 1970, with zeros in front. -/
theorem decimals_agree_before_epoch :
    20 ≤ Numeral.maxDigits ∧ StandsForMillis (.str "-00000000000000000001") (-1) :=
  ⟨by decide, (decimals_agree (-1) false (by decide : 20 ≤ Numeral.maxDigits)).2.2.1⟩

/-- A date in digits alone, with a time of day for the digits that follow, is a number of more than 64
bits. -/
example : instantOf (.str "20240101012345678901") = .error (.noOffset "20240101012345678901") := by rfl

end ClusterHarness.Time
