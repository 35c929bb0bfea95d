import ClusterHarness.Proofs.Results
import ClusterHarness.Proofs.Time.Offsets

/-!
Forms of timestamps: a time written like a timestamp has its form, and what is written is read back to
the millisecond, but for the ISO 8601 texts of years of fewer than four digits.
-/

namespace ClusterHarness.Time

inductive TimestampForm where
  | integer
  | longText
  | iso
  deriving DecidableEq

/-- The form of a timestamp; every text that holds no integer counts as ISO 8601. -/
def TimestampForm.of? : Json → Option TimestampForm
  | .int _ => some .integer
  | .str t =>
    match long? t with
    | .ok (some _) => some .longText
    | .ok none => some .iso
    | .error _ => none
  | _ => none

open TimestampForm

theorem exists_form {raw : Json} {i : Instant} (h : instantOf raw = .ok i) : ∃ form, of? raw = some form := by
  cases raw with
  | int n => exact ⟨.integer, rfl⟩
  | str t =>
    rw [instantOf_str, textInstant] at h
    cases hlong : long? t with
    | error limit =>
      rw [hlong] at h
      cases h
    | ok found =>
      cases found with
      | some n => exact ⟨.longText, by simp only [of?, hlong]⟩
      | none => exact ⟨.iso, by simp only [of?, hlong]⟩
  | _ => cases h

namespace Instant

def write (m : Instant) : TimestampForm → Json
  | .integer => .int m.epochMillis
  | .longText => .str (Text.ofInt m.epochMillis)
  | .iso => .str (isoText m.civil)

theorem write_iso (m : Instant) : m.write .iso = .str (isoText m.civil) := rfl

theorem instant?_ofInstant (m : Instant) : (ZonedTime.ofInstant m).instant? = some m := by
  rw [ZonedTime.instant?, utcMicros_ofInstant, ofMicros?_micros]

end Instant

theorem formatLike_of_parts {z : ZonedTime} {m : Instant} (hmillis : z.epochMillis? = some m.epochMillis)
    (hinstant : z.instant? = some m) {raw : Json} {form : TimestampForm} (h : of? raw = some form) :
    formatLike z raw = .ok (m.write form) := by
  unfold formatLike
  rw [hmillis, hinstant]
  cases raw with
  | int n =>
    cases h
    rfl
  | str t =>
    cases hlong : long? t with
    | error limit => simp [of?, hlong] at h
    | ok found =>
      cases found with
      | some n =>
        obtain rfl : .longText = form := by simpa [of?, hlong] using h
        simp only [hlong, Instant.write]
        rfl
      | none =>
        obtain rfl : .iso = form := by simpa [of?, hlong] using h
        simp only [hlong, Instant.write]
  | _ => cases h

theorem formatLike_eq_write (m : Instant) {raw : Json} {form : TimestampForm} (h : of? raw = some form) :
    formatLike (.ofInstant m) raw = .ok (m.write form) :=
  formatLike_of_parts (epochMillis?_ofInstant m) m.instant?_ofInstant h

/-! ### ISO 8601 texts without a padded year -/

theorem isoText_eq (c : Civil) :
    isoText c = Text.ofNat c.date.year ++ c.textAfterYear (Text.ofString "Z") := by
  simp only [isoText, Civil.textAfterYear, List.append_assoc]

theorem isoText_eq_text {c : Civil} (h : 1000 ≤ c.date.year) : isoText c = c.text (Text.ofString "Z") := by
  have hlength : 3 < (Text.ofNat c.date.year).length := Text.lt_length_ofNat h
  rw [isoText_eq, Civil.text, padded_of_long hlength]

theorem long?_isoText (c : Civil) : long? (isoText c) = .ok none := by
  rw [isoText_eq]
  exact c.long?_year_text (Text.ofNat_digits _) (Text.ofNat_ne_nil _) _

theorem isoText_ends (c : Civil) : ∃ t, isoText c = t ++ Text.ofString "Z" := by
  refine ⟨Text.ofNat c.date.year ++ c.textAfterYear [], ?_⟩
  rw [isoText_eq, List.append_assoc, ← Civil.textAfterYear_append]
  rfl

theorem digits?_of_mem {width : Nat} {s : Bytes} {b : UInt8} (hb : b ∈ s.take width)
    (hdigit : IsoText.isDigit b = false) : IsoText.digits? width s = none := by
  have hall : ¬((s.take width).length = width ∧ (s.take width).all IsoText.isDigit = true) := by
    rintro ⟨-, hall⟩
    have htrue := List.all_eq_true.mp hall b hb
    rw [hdigit] at htrue
    cases htrue
  simp only [IsoText.digits?, if_neg hall]

/-- A text starts with the four digits of its year. -/
theorem readIso_of_mem {t : Text} (h : t.IsAscii) {c : CodePoint} (hc : c ∈ t.take 4)
    (hdigit : c.isAsciiDigit = false) : readIso t = .error .malformed := by
  have hbyte : IsoText.isDigit (UInt8.ofNat c.val) = false := by
    have hval := h c (List.mem_of_mem_take hc)
    have hnat : (UInt8.ofNat c.val).toNat = c.val := by
      rw [UInt8.toNat_ofNat']
      omega
    simpa [IsoText.isDigit, UInt8.le_iff_toNat_le, hnat, CodePoint.isAsciiDigit] using hdigit
  have hmem : UInt8.ofNat c.val ∈ (Utf8.encode t).take 4 := by
    rw [Utf8.encode_ascii h, ← List.map_take]
    exact List.mem_map_of_mem hc
  have hnone := digits?_of_mem hmem hbyte
  have hparts : IsoText.parts? t = none := by
    simp only [IsoText.parts?, plainSeparator_of_scalars h.not_surrogate, IsoText.date?, hnone]
    split <;> rfl
  rw [readIso, hparts]

theorem readIso_short_year {year more : Text} (hyear : year.IsAscii) (hshort : year.length < 4)
    (hmore : more.IsAscii) : readIso (year ++ CodePoint.ofChar '-' :: more) = .error .malformed := by
  have hascii : Text.IsAscii (year ++ CodePoint.ofChar '-' :: more) := by
    refine Text.isAscii_append.mpr ⟨hyear, ?_⟩
    rw [← List.singleton_append]
    exact Text.isAscii_append.mpr ⟨Text.isAscii_singleton (by decide), hmore⟩
  -- the hyphen after a short year stands where its fourth digit is looked for
  have hmem : CodePoint.ofChar '-' ∈ (year ++ CodePoint.ofChar '-' :: more).take 4 := by
    rw [List.take_append, List.mem_append]
    obtain ⟨k, hk⟩ : ∃ k, 4 - year.length = k + 1 := ⟨3 - year.length, by omega⟩
    rw [hk, List.take_succ_cons]
    exact .inr List.mem_cons_self
  exact readIso_of_mem hascii hmem rfl

theorem textInstant_short_year {c : Civil} (h : c.date.year < 1000) :
    ∃ iso, textInstant (isoText c) = .error (.malformed iso) := by
  have hlength : (Text.ofNat c.date.year).length < 4 :=
    Nat.lt_succ_of_le (Text.length_ofNat_le (by decide) h)
  have hspelled : spellOffset (isoText c) =
      Text.ofNat c.date.year ++ c.textAfterYear (Text.ofString "+00:00") := by
    have hzone : ∀ zone, c.textAfterYear zone = c.textAfterYear [] ++ zone := c.textAfterYear_append []
    rw [isoText_eq, hzone, hzone (Text.ofString "+00:00"), ← List.append_assoc, ← List.append_assoc]
    exact (spellOffset_concat _ _).trans (if_pos (.inl rfl))
  have hzone : (Text.ofString "+00:00").IsAscii := offsetText_ascii false 0
  obtain ⟨more, hmore⟩ := c.textAfterYear_eq (Text.ofString "+00:00")
  have hascii : Text.IsAscii more := fun d hd =>
    c.textAfterYear_ascii hzone d (hmore ▸ List.mem_cons_of_mem _ hd)
  have hread := readIso_short_year (Text.isAscii_of_digits (Text.ofNat_digits c.date.year)) hlength hascii
  rw [← hmore] at hread
  refine ⟨spellOffset (isoText c), ?_⟩
  rw [hspelled]
  simp only [textInstant, long?_isoText, isoInstant, hspelled, hread]

theorem textInstant_isoText (m : Instant) (h : 1000 ≤ m.civil.date.year) :
    textInstant (isoText m.civil) = .ok m.wholeMillis := by
  have hlocal : IsLocalTime m.civil m false 0 := ⟨⟨m.micros, m.civil_shows, (Int.add_zero _).symm⟩, m.civil_year_le⟩
  rw [isoText_eq_text h, ← instantOf_str]
  exact hlocal.read (by decide) (m.civil.spellOffset_utc (by decide))

/-! ### Writing and reading -/

theorem form_write (m : Instant) (form : TimestampForm) : of? (m.write form) = some form := by
  cases form with
  | integer => rfl
  | longText => simp only [Instant.write, of?, long?_of_isLong m.epochMillis_isLong]
  | iso => simp only [Instant.write, of?, long?_isoText]

theorem instantOf_write {m : Instant} {form : TimestampForm} (h : form = .iso → 1000 ≤ m.civil.date.year) :
    instantOf (m.write form) = .ok m.wholeMillis := by
  cases form with
  | integer => rw [Instant.write, instantOf_int, textInstant_epochMillis]
  | longText => rw [Instant.write, instantOf_str, textInstant_epochMillis]
  | iso => rw [Instant.write, instantOf_str, textInstant_isoText m (h rfl)]

structure WrittenLike (raw : Json) (m : Instant) (written : Json) : Prop where
  form : of? written = of? raw
  utc : of? raw = some .iso → ∃ t, written = .str (t ++ Text.ofString "Z")
  readBack : (of? raw = some .iso → 1000 ≤ m.civil.date.year) → instantOf written = .ok m.wholeMillis
  unreadable : of? raw = some .iso → m.civil.date.year < 1000 →
    ∃ iso, instantOf written = .error (.malformed iso)

/-- Written like a timestamp, an instant keeps the form and is read back to the millisecond; only what is
written in ISO 8601 for a year before 1000 is refused. -/
theorem formatLike_keeps_millis {raw : Json} {i : Instant} (hraw : instantOf raw = .ok i) (m : Instant) :
    ∃ written, formatLike (.ofInstant m) raw = .ok written ∧ WrittenLike raw m written := by
  obtain ⟨form, hform⟩ := exists_form hraw
  refine ⟨m.write form, formatLike_eq_write m hform, ?_, ?_, ?_, ?_⟩
  · rw [form_write, hform]
  · intro hiso
    obtain rfl : form = .iso := Option.some.inj (hform.symm.trans hiso)
    obtain ⟨t, ht⟩ := isoText_ends m.civil
    exact ⟨t, by rw [Instant.write_iso, ht]⟩
  · intro hyear
    exact instantOf_write fun hiso => hyear (hiso ▸ hform)
  · intro hiso hyear
    obtain rfl : form = .iso := Option.some.inj (hform.symm.trans hiso)
    rw [Instant.write_iso, instantOf_str]
    exact textInstant_short_year hyear

/-- The last microsecond before 1970. -/
def beforeEpoch : Instant := ⟨62135596799999999, by decide⟩

theorem formatLike_keeps_millis_before_epoch :
    instantOf (.str "2023-06-01T00:00:00+02:00") = .ok ⟨63821167200000000, by decide⟩ ∧
      ∃ written, formatLike (.ofInstant beforeEpoch) (.str "2023-06-01T00:00:00+02:00") = .ok written ∧
        WrittenLike (.str "2023-06-01T00:00:00+02:00") beforeEpoch written :=
  ⟨rfl, formatLike_keeps_millis rfl beforeEpoch⟩

/-- A quarter of a second into the year 500. -/
def earlyYear : Instant := ⟨15746918400250000, by decide⟩

/-- The year 500 is written with three digits, which are not read back. -/
theorem early_year_is_not_read_back :
    instantOf (.str "0500-01-01T00:00:00.250Z") = .ok earlyYear ∧
      formatLike (.ofInstant earlyYear) (.str "0500-01-01T00:00:00.250Z") =
        .ok (.str "500-01-01T00:00:00.250Z") ∧
      ∃ iso, instantOf (.str "500-01-01T00:00:00.250Z") = .error (.malformed iso) :=
  ⟨rfl, rfl, _, rfl⟩

end ClusterHarness.Time
