import ClusterHarness.Proofs.Text.Ascii
import ClusterHarness.Proofs.Text.Digits
import ClusterHarness.Proofs.Time.Civil
import ClusterHarness.Time.Timestamp

/-!
Reading ISO 8601 texts in full: the digits of fixed width that make up a date, a time of day and an
offset are read back.
-/

namespace ClusterHarness

namespace Time

/-! ### Digits of fixed width -/

section Padded

variable {width n : Nat}

theorem length_padded (hwidth : 0 < width) (h : n < 10 ^ width) : (padded width n).length = width := by
  have hle := Text.length_ofNat_le hwidth h
  rw [padded, List.length_append, List.length_replicate]
  omega

theorem padded_digits (width n : Nat) : ∀ c ∈ padded width n, c.isAsciiDigit := by
  intro c hc
  rcases List.mem_append.mp hc with hc | hc
  · rw [List.eq_of_mem_replicate hc]
    rfl
  · exact Text.ofNat_digits n c hc

theorem padded_ascii (width n : Nat) : (padded width n).IsAscii := Text.isAscii_of_digits (padded_digits width n)

theorem digitsValue_padded (width n : Nat) : Json.digitsValue (padded width n) = n := by
  have hzeros : ∀ k, (List.replicate k (CodePoint.ofChar '0')).foldl (fun n d => 10 * n + (d.val - 48)) 0 = 0 := by
    intro k
    induction k with
    | zero => rfl
    | succ k ih => exact ih
  rw [Json.digitsValue, padded, List.foldl_append, hzeros]
  exact Text.digitsValue_ofNat n

theorem padded_of_long (h : width ≤ (Text.ofNat n).length) : padded width n = Text.ofNat n := by
  rw [padded, Nat.sub_eq_zero_of_le h]
  rfl

end Padded

namespace IsoText

theorem ofNat_toNat {c : CodePoint} (h : c.isAsciiDigit) : (UInt8.ofNat c.val).toNat = c.val := by
  simp only [CodePoint.isAsciiDigit, Bool.and_eq_true, decide_eq_true_eq] at h
  rw [UInt8.toNat_ofNat']
  omega

theorem isDigit_ofNat {c : CodePoint} (h : c.isAsciiDigit) : isDigit (UInt8.ofNat c.val) = true := by
  have hval := ofNat_toNat h
  simp only [CodePoint.isAsciiDigit, Bool.and_eq_true, decide_eq_true_eq] at h
  simp only [isDigit, Bool.and_eq_true, decide_eq_true_eq, UInt8.le_iff_toNat_le, hval]
  exact h

def stem (width n : Nat) : Bytes := Utf8.encode (padded width n)

theorem stem_eq (width n : Nat) : stem width n = (padded width n).map fun c => UInt8.ofNat c.val :=
  Utf8.encode_ascii (padded_ascii width n)

theorem stem_digits {width n : Nat} : ∀ b ∈ stem width n, isDigit b = true := by
  intro b hb
  rw [stem_eq] at hb
  obtain ⟨c, hc, rfl⟩ := List.mem_map.mp hb
  exact isDigit_ofNat (padded_digits width n c hc)

variable {width n : Nat}

theorem length_stem (hwidth : 0 < width) (h : n < 10 ^ width) : (stem width n).length = width := by
  rw [stem_eq, List.length_map, length_padded hwidth h]

theorem digits?_stem (hwidth : 0 < width) (h : n < 10 ^ width) (rest : Bytes) :
    digits? width (stem width n ++ rest) = some (n, rest) := by
  have hlength := length_stem hwidth h
  have htake : (stem width n ++ rest).take width = stem width n := List.take_left' hlength
  have hdrop : (stem width n ++ rest).drop width = rest := List.drop_left' hlength
  have hall : (stem width n).all isDigit = true := List.all_eq_true.mpr stem_digits
  have hvalue : (stem width n).foldl (fun n d => 10 * n + (d.toNat - 48)) 0 = n := by
    rw [stem_eq, List.foldl_map]
    refine Eq.trans ?_ (digitsValue_padded width n)
    rw [Json.digitsValue]
    refine List.foldl_ext _ _ _ fun k c hc => ?_
    rw [ofNat_toNat (padded_digits width n c hc)]
  simp only [digits?, htake, hdrop, hlength, hall, hvalue, and_self, if_true]

theorem next_stem (hwidth : 0 < width) (h : n < 10 ^ width) (rest : Bytes) :
    isDigit (next (stem width n ++ rest)) = true := by
  cases hstem : stem width n with
  | nil =>
    have hlength := length_stem hwidth h
    rw [hstem] at hlength
    exact absurd hlength hwidth.ne
  | cons b s => exact stem_digits b (hstem ▸ List.mem_cons_self)

theorem ne_of_isDigit {b c : UInt8} (h : isDigit b = true) (hc : isDigit c = false) : b ≠ c := by
  rintro rfl
  rw [h] at hc
  cases hc

/-! ### Dates and times of day -/

def dateBytes (year month day : Nat) : Bytes :=
  stem 4 year ++ hyphen :: (stem 2 month ++ hyphen :: stem 2 day)

def minuteBytes (hour minute : Nat) : Bytes := stem 2 hour ++ colon :: stem 2 minute

def clockBytes (hour minute second milli : Nat) : Bytes :=
  minuteBytes hour minute ++ colon :: (stem 2 second ++ 46 :: stem 3 milli)

@[simp] theorem next_cons (b : UInt8) (s : Bytes) : next (b :: s) = b := rfl

@[simp] theorem expect?_cons (b : UInt8) (s : Bytes) : expect? b (b :: s) = some s := if_pos rfl

theorem length_dateBytes {year month day : Nat} (hyear : year < 10000) (hmonth : month < 100)
    (hday : day < 100) : (dateBytes year month day).length = 10 := by
  simp [dateBytes, length_stem (by decide : 0 < 4) hyear, length_stem (by decide : 0 < 2) hmonth,
    length_stem (by decide : 0 < 2) hday]

theorem date?_dateBytes {year month day : Nat} (hyear : year < 10000) (hmonth : month < 100)
    (hday : day < 100) (rest : Bytes) :
    date? (dateBytes year month day ++ rest) 10 = some ⟨year, month, day⟩ := by
  have hweek : next (stem 2 month ++ (hyphen :: (stem 2 day ++ rest))) ≠ letterW :=
    ne_of_isDigit (next_stem (by decide) hmonth _) rfl
  have hy := digits?_stem (by decide : 0 < 4) hyear
  have hm := digits?_stem (by decide : 0 < 2) hmonth
  have hd := digits?_stem (by decide : 0 < 2) hday
  simp only [date?, dateBytes, List.append_assoc, List.cons_append, hy, Option.bind_eq_bind, Option.bind_some,
    next_cons, beq_self_eq_true, if_true, List.tail_cons, if_neg hweek, hm, expect?_cons, hd]
  rfl

theorem clock?_minuteBytes {hour minute : Nat} (hhour : hour < 100) (hminute : minute < 100) :
    clock? 5 (minuteBytes hour minute) = some (⟨hour, minute, 0, 0⟩, false) := by
  have hh := digits?_stem (by decide : 0 < 2) hhour
  have hm := digits?_stem (by decide : 0 < 2) hminute []
  rw [List.append_nil] at hm
  simp [clock?, minuteBytes, pairs?, hh, hm, next]

theorem clock?_clockBytes {hour minute second milli : Nat} (hhour : hour < 100) (hminute : minute < 100)
    (hsecond : second < 100) (hmilli : milli < 1000) {b : UInt8} (hb : isDigit b = false) (rest : Bytes) :
    clock? 12 (clockBytes hour minute second milli ++ b :: rest) =
      some (⟨hour, minute, second, milli * 1000⟩, b != 0) := by
  have hh := digits?_stem (by decide : 0 < 2) hhour
  have hm := digits?_stem (by decide : 0 < 2) hminute
  have hs := digits?_stem (by decide : 0 < 2) hsecond
  have hf := digits?_stem (by decide : 0 < 3) hmilli
  simp [clock?, clockBytes, minuteBytes, pairs?, hh, hm, hs, hf, fraction?, hb, colon]

theorem startsOffset_of_isDigit {b : UInt8} (h : isDigit b = true) : startsOffset b = false := by
  simp only [startsOffset, Bool.or_eq_false_iff, beq_eq_false_iff_ne]
  exact ⟨⟨ne_of_isDigit h rfl, ne_of_isDigit h rfl⟩, ne_of_isDigit h rfl⟩

theorem clockBytes_unsigned {hour minute second milli : Nat} :
    ∀ b ∈ clockBytes hour minute second milli, startsOffset b = false := by
  intro b hb
  simp only [clockBytes, minuteBytes, List.mem_append, List.mem_cons] at hb
  rcases hb with (hb | rfl | hb) | rfl | hb | rfl | hb
  · exact startsOffset_of_isDigit (stem_digits b hb)
  · rfl
  · exact startsOffset_of_isDigit (stem_digits b hb)
  · rfl
  · exact startsOffset_of_isDigit (stem_digits b hb)
  · rfl
  · exact startsOffset_of_isDigit (stem_digits b hb)

theorem length_minuteBytes {hour minute : Nat} (hhour : hour < 100) (hminute : minute < 100) :
    (minuteBytes hour minute).length = 5 := by
  simp [minuteBytes, length_stem (by decide : 0 < 2) hhour, length_stem (by decide : 0 < 2) hminute]

theorem length_clockBytes {hour minute second milli : Nat} (hhour : hour < 100) (hminute : minute < 100)
    (hsecond : second < 100) (hmilli : milli < 1000) : (clockBytes hour minute second milli).length = 12 := by
  simp [clockBytes, length_minuteBytes hhour hminute, length_stem (by decide : 0 < 2) hsecond,
    length_stem (by decide : 0 < 3) hmilli]

def signByte (west : Bool) : UInt8 := if west then hyphen else 43

def offsetMicros (west : Bool) (minutes : Nat) : Int :=
  if west then -(minutes * 60000000 : Nat) else (minutes * 60000000 : Nat)

theorem time?_text {hour minute second milli : Nat} (hhour : hour < 100) (hminute : minute < 100)
    (hsecond : second < 100) (hmilli : milli < 1000) (west : Bool) {minutes : Nat} (hminutes : minutes < 1440) :
    time? (clockBytes hour minute second milli ++ signByte west :: minuteBytes (minutes / 60) (minutes % 60)) =
      some (⟨hour, minute, second, milli * 1000⟩, some (offsetMicros west minutes)) := by
  have hsign : startsOffset (signByte west) = true := by cases west <;> rfl
  have hutc : signByte west ≠ 90 := by cases west <;> decide
  have hzone : clock? 5 (minuteBytes (minutes / 60) (minutes % 60)) =
      some (⟨minutes / 60, minutes % 60, 0, 0⟩, false) := clock?_minuteBytes (by omega) (by omega)
  have hzoneLength : (minuteBytes (minutes / 60) (minutes % 60)).length = 5 :=
    length_minuteBytes (by omega) (by omega)
  have hlead : ((clockBytes hour minute second milli ++
      signByte west :: minuteBytes (minutes / 60) (minutes % 60)).takeWhile (!startsOffset ·)) =
        clockBytes hour minute second milli := by
    rw [List.takeWhile_append_of_pos (by simpa using clockBytes_unsigned), List.takeWhile_cons_of_neg (by simp [hsign]),
      List.append_nil]
  have hlength := length_clockBytes hhour hminute hsecond hmilli
  have hdigit : isDigit (signByte west) = false := by cases west <;> rfl
  simp only [time?, hlead, hlength, clock?_clockBytes hhour hminute hsecond hmilli hdigit,
    List.drop_left' hlength, Option.bind_eq_bind, Option.bind_some, if_neg hutc, hzoneLength, hzone]
  have hseconds : (minutes / 60 * 60 + minutes % 60) * 60 + 0 = minutes * 60 := by omega
  cases west
  · simp [offsetMicros, signByte, hseconds, hyphen]
    omega
  · simp [offsetMicros, signByte, hseconds, hyphen]
    omega

end IsoText

/-! ### Texts -/

def offsetText (west : Bool) (minutes : Nat) : Text :=
  Text.ofString (if west then "-" else "+") ++ padded 2 (minutes / 60) ++ ":" ++ padded 2 (minutes % 60)

/-- The text of a civil time to the millisecond without its year, before what is written for the
offset. -/
def Civil.textAfterYear (c : Civil) (zone : Text) : Text :=
  "-" ++ padded 2 c.date.month ++ "-" ++ padded 2 c.date.day ++ "T" ++ padded 2 c.hour ++ ":"
    ++ padded 2 c.minute ++ ":" ++ padded 2 c.second ++ "." ++ padded 3 (c.micro / 1000) ++ zone

/-- The text of a civil time to the millisecond, with four digits for the year. -/
def Civil.text (c : Civil) (zone : Text) : Text := padded 4 c.date.year ++ c.textAfterYear zone

def Civil.wholeMillis (c : Civil) : Civil := { c with micro := c.micro / 1000 * 1000 }

theorem offsetText_ascii (west : Bool) (minutes : Nat) : (offsetText west minutes).IsAscii := by
  have hsign : (Text.ofString (if west then "-" else "+")).IsAscii := by
    cases west <;> exact Text.isAscii_singleton (by decide)
  have hcolon : Text.IsAscii ":" := Text.isAscii_singleton (by decide)
  simp only [offsetText, Text.isAscii_append, padded_ascii, hsign, hcolon, and_self]

theorem Civil.textAfterYear_ascii (c : Civil) {zone : Text} (h : zone.IsAscii) :
    (c.textAfterYear zone).IsAscii := by
  have hyphen : Text.IsAscii "-" := Text.isAscii_singleton (by decide)
  have hcolon : Text.IsAscii ":" := Text.isAscii_singleton (by decide)
  have hpoint : Text.IsAscii "." := Text.isAscii_singleton (by decide)
  have hmark : Text.IsAscii "T" := Text.isAscii_singleton (by decide)
  simp only [Civil.textAfterYear, Text.isAscii_append, padded_ascii, hyphen, hcolon, hpoint, hmark, h, and_self]

theorem Civil.text_ascii (c : Civil) {zone : Text} (h : zone.IsAscii) : (c.text zone).IsAscii :=
  Text.isAscii_append.mpr ⟨padded_ascii _ _, c.textAfterYear_ascii h⟩

open IsoText in
theorem Civil.encode_text (c : Civil) (west : Bool) (minutes : Nat) :
    Utf8.encode (c.text (offsetText west minutes)) = dateBytes c.date.year c.date.month c.date.day ++
      84 :: (clockBytes c.hour c.minute c.second (c.micro / 1000) ++
        signByte west :: minuteBytes (minutes / 60) (minutes % 60)) := by
  have hyphen : Utf8.encode "-" = [IsoText.hyphen] := rfl
  have hcolon : Utf8.encode ":" = [colon] := rfl
  have hpoint : Utf8.encode "." = [46] := rfl
  have hmark : Utf8.encode "T" = [84] := rfl
  have hsign : Utf8.encode (Text.ofString (if west then "-" else "+")) = [signByte west] := by
    cases west <;> rfl
  have hstem : ∀ width n, Utf8.encode (padded width n) = stem width n := fun _ _ => rfl
  simp only [Civil.text, Civil.textAfterYear, offsetText, Utf8.encode_append, hyphen, hcolon, hpoint, hmark, hsign, dateBytes,
    clockBytes, minuteBytes, hstem, List.append_assoc, List.cons_append, List.nil_append]

/-- Dates and times of day that two digits, and four for the year, have room for. -/
structure Civil.Fits (c : Civil) : Prop where
  year : c.date.year < 10000
  month : c.date.month < 100
  day : c.date.day < 100
  hour : c.hour < 100
  minute : c.minute < 100
  second : c.second < 100
  micro : c.micro < 1000000

theorem plainSeparator_of_scalars {t : Text} (h : t.any CodePoint.isSurrogate = false) :
    IsoText.plainSeparator t = t := by
  have hnone : (IsoText.separatorPositions.find? fun i => (t[i]?).any CodePoint.isSurrogate) = none := by
    rw [List.find?_eq_none]
    intro i _ hi
    obtain ⟨c, hc, hsurrogate⟩ := Option.any_eq_true _ _ |>.mp hi
    rw [List.any_eq_false] at h
    exact h c (List.mem_of_getElem? hc) hsurrogate
  simp only [IsoText.plainSeparator, hnone]

open IsoText in
theorem dateLength_dateBytes {year month day : Nat} (hyear : year < 10000) (hmonth : month < 100)
    (hday : day < 100) (rest : Bytes) :
    dateLength (dateBytes year month day ++ rest) = 10 := by
  have hy := length_stem (by decide : 0 < 4) hyear
  have hlength : 7 < (dateBytes year month day ++ rest).length := by
    rw [List.length_append, length_dateBytes hyear hmonth hday]
    omega
  have h4 : (dateBytes year month day ++ rest).getD 4 0 = hyphen := by
    simp [dateBytes, hy]
  have h5 : (dateBytes year month day ++ rest).getD 5 0 ≠ letterW := by
    have hdigit := next_stem (by decide : 0 < 2) hmonth (hyphen :: stem 2 day ++ rest)
    have heq : (dateBytes year month day ++ rest).getD 5 0 =
        next (stem 2 month ++ (hyphen :: stem 2 day ++ rest)) := by
      simp [dateBytes, List.getElem?_append_right, hy, next, List.head?_eq_getElem?]
    rw [heq]
    exact ne_of_isDigit hdigit rfl
  simp only [dateLength, h4, if_neg h5, if_neg hlength.ne', if_true]

open IsoText in
theorem parts?_text {c : Civil} (h : c.Fits) (west : Bool) {minutes : Nat} (hminutes : minutes < 1440) :
    parts? (c.text (offsetText west minutes)) = some (c.wholeMillis, some (offsetMicros west minutes)) := by
  have hascii := c.text_ascii (offsetText_ascii west minutes)
  have hmilli : c.micro / 1000 < 1000 := by
    have hmicro := h.micro
    omega
  have hbytes := c.encode_text west minutes
  have hdate := date?_dateBytes h.year h.month h.day
  have hdateLength := dateLength_dateBytes h.year h.month h.day
  have hlength := length_dateBytes h.year h.month h.day
  have hlong : ¬(c.text (offsetText west minutes)).length < 7 := by
    rw [← Utf8.length_encode_ascii hascii, hbytes, List.length_append, hlength]
    omega
  have hmore : 10 < (dateBytes c.date.year c.date.month c.date.day ++
      84 :: (clockBytes c.hour c.minute c.second (c.micro / 1000) ++
        signByte west :: minuteBytes (minutes / 60) (minutes % 60))).length := by
    rw [List.length_append, hlength, List.length_cons]
    omega
  have hmark : charLength 84 = 1 := rfl
  simp only [parts?, plainSeparator_of_scalars hascii.not_surrogate, hascii.not_surrogate, hlong, hbytes,
    hdateLength, hdate, if_pos hmore, List.drop_left' hlength, next_cons, hmark, List.drop_one, List.tail_cons,
    time?_text h.hour h.minute h.second hmilli west hminutes, Option.bind_eq_bind, Option.bind_some,
    Bool.false_eq_true, or_self, if_false]
  rfl

theorem Civil.Shows.fits {c : Civil} {micros : Nat} (h : c.Shows micros) (hyear : c.date.year ≤ maxYear) :
    c.Fits := by
  have hvalid : c.date.Valid := h.date ▸ Date.valid_after _
  have hmonth := daysInMonth_le c.date.year c.date.month
  have hhour := h.hour
  have hminute := h.minute
  have hsecond := h.second
  obtain ⟨-, ⟨-, hmonth'⟩, -, hday⟩ := hvalid
  exact ⟨Nat.lt_succ_of_le hyear, by omega, by omega, by omega, by omega, by omega, h.micro⟩

theorem Civil.Shows.wholeMillis {c : Civil} {micros : Nat} (h : c.Shows micros) :
    c.wholeMillis.Shows (micros / 1000 * 1000) := by
  obtain ⟨hdate, hclock, hminute, hsecond, hmicro⟩ := h
  refine ⟨?_, ?_, hminute, hsecond, ?_⟩
  · have hday : micros / 1000 * 1000 / dayMicros = micros / dayMicros := by
      simp only [dayMicros]
      omega
    rw [hday]
    exact hdate
  · simp only [Civil.wholeMillis, dayMicros] at *
    omega
  · simp only [Civil.wholeMillis]
    omega

/-- The text of a civil time at an offset is read as the instant that it shows, to the millisecond. -/
theorem readIso_text {c : Civil} {micros : Nat} (h : c.Shows micros) (hyear : c.date.year ≤ maxYear)
    (west : Bool) {minutes : Nat} (hminutes : minutes < 1440) :
    readIso (c.text (offsetText west minutes)) = .ok ⟨c.wholeMillis, some (IsoText.offsetMicros west minutes)⟩ := by
  have hoffset : ¬dayMicros ≤ (IsoText.offsetMicros west minutes).natAbs := by
    cases west <;> simp only [IsoText.offsetMicros, dayMicros] <;> omega
  have hfault : c.wholeMillis.fault? = none := h.wholeMillis.fault?_eq_none hyear
  simp [readIso, parts?_text (h.fits hyear) west hminutes, hoffset, hfault]

end Time

end ClusterHarness
