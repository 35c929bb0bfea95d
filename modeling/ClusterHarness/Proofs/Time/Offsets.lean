import ClusterHarness.Proofs.Time.IsoReading
import ClusterHarness.Proofs.Time.Millis

/-!
Offsets: the ISO 8601 text of an instant's local date and time of day, at any offset of whole minutes,
stands for the instant.
-/

namespace ClusterHarness.Time

open IsoText (offsetMicros)

theorem spellOffset_concat (t : Text) (c : CodePoint) :
    spellOffset (t ++ [c]) = if c = CodePoint.ofChar 'Z' ∨ c = CodePoint.ofChar 'z'
      then t ++ Text.ofString "+00:00" else t ++ [c] := by
  simp [spellOffset]

theorem spellOffset_digits (t : Text) {ds : Text} (h : ∀ c ∈ ds, c.isAsciiDigit) (hne : ds ≠ []) :
    spellOffset (t ++ ds) = t ++ ds := by
  have hlast : (ds.getLast hne).isAsciiDigit := h _ (List.getLast_mem hne)
  have hletter : ¬(ds.getLast hne = CodePoint.ofChar 'Z' ∨ ds.getLast hne = CodePoint.ofChar 'z') := by
    rintro (heq | heq) <;> rw [heq] at hlast <;> cases hlast
  rw [← List.dropLast_append_getLast hne, ← List.append_assoc, spellOffset_concat, if_neg hletter]

theorem padded_ne_nil (width n : Nat) : padded width n ≠ [] := by
  rw [padded, ne_eq, List.append_eq_nil_iff]
  exact fun h => Text.ofNat_ne_nil n h.2

theorem offsetMicros_whole (west : Bool) (minutes : Nat) : ∃ k : ℤ, offsetMicros west minutes = 1000 * k := by
  cases west
  · refine ⟨minutes * 60000, ?_⟩
    simp only [offsetMicros, Bool.false_eq_true, if_false]
    omega
  · refine ⟨-(minutes * 60000), ?_⟩
    simp only [offsetMicros, if_true]
    omega

namespace Civil

variable (c : Civil)

theorem textAfterYear_append (zone more : Text) :
    c.textAfterYear (zone ++ more) = c.textAfterYear zone ++ more := by
  simp only [textAfterYear, List.append_assoc]

theorem text_append (zone more : Text) : c.text (zone ++ more) = c.text zone ++ more := by
  rw [text, textAfterYear_append, ← List.append_assoc]
  rfl

theorem text_eq_append (zone : Text) : c.text zone = c.text [] ++ zone := c.text_append [] zone

theorem spellOffset_text (west : Bool) (minutes : Nat) :
    spellOffset (c.text (offsetText west minutes)) = c.text (offsetText west minutes) := by
  rw [offsetText, text_append]
  exact spellOffset_digits _ (padded_digits _ _) (padded_ne_nil _ _)

/-- Both letters for UTC are read as the offset zero. -/
theorem spellOffset_utc {zone : Text} (h : zone ∈ [Text.ofString "Z", Text.ofString "z", Text.ofString "+00:00"]) :
    spellOffset (c.text zone) = c.text (offsetText false 0) := by
  have hzero : offsetText false 0 = Text.ofString "+00:00" := rfl
  rw [List.mem_cons, List.mem_cons, List.mem_singleton] at h
  rcases h with rfl | rfl | rfl
  · rw [text_eq_append, hzero, text_eq_append c (Text.ofString "+00:00")]
    exact (spellOffset_concat _ _).trans (if_pos (.inl rfl))
  · rw [text_eq_append, hzero, text_eq_append c (Text.ofString "+00:00")]
    exact (spellOffset_concat _ _).trans (if_pos (.inr rfl))
  · rw [← hzero]
    exact c.spellOffset_text false 0

theorem textAfterYear_eq (zone : Text) : ∃ more, c.textAfterYear zone = CodePoint.ofChar '-' :: more := by
  simp only [textAfterYear, List.append_assoc]
  exact ⟨_, rfl⟩

/-- The hyphen after the year keeps a text from being an integer. -/
theorem long?_year_text {year : Text} (h : ∀ d ∈ year, d.isAsciiDigit) (hne : year ≠ []) (zone : Text) :
    long? (year ++ c.textAfterYear zone) = .ok none := by
  obtain ⟨more, hmore⟩ := c.textAfterYear_eq zone
  have hstop : Numeral.Stopped (CodePoint.ofChar '-' :: more) := by
    intro d hd
    cases hd
    rfl
  have hfeed : CodePoint.ofChar '-' :: more ≠ [10] := by
    intro h
    cases (List.cons.inj h).1
  rw [hmore]
  exact long?_of_more h hne hstop (List.cons_ne_nil _ _) hfeed

theorem long?_text (zone : Text) : long? (c.text zone) = .ok none :=
  c.long?_year_text (padded_digits 4 _) (padded_ne_nil 4 _) zone

end Civil

/-- The civil time is the one of an instant at an offset of whole minutes, in a year of the calendar. -/
structure IsLocalTime (c : Civil) (t : Instant) (west : Bool) (minutes : Nat) : Prop where
  shown : ∃ micros : Nat, c.Shows micros ∧ (micros : ℤ) = t.micros + offsetMicros west minutes
  year : c.date.year ≤ maxYear

/-- A text that spells the local time at an offset is read as the instant, rounded down to a
millisecond. -/
theorem IsLocalTime.read {c : Civil} {t : Instant} {west : Bool} {minutes : Nat}
    (h : IsLocalTime c t west minutes) (hminutes : minutes < 1440) {zone : Text}
    (hspelled : spellOffset (c.text zone) = c.text (offsetText west minutes)) :
    instantOf (.str (c.text zone)) = .ok t.wholeMillis := by
  obtain ⟨⟨micros, hshows, hmicros⟩, hyear⟩ := h
  have hread := readIso_text hshows hyear west hminutes
  -- rounding down to a millisecond commutes with the offset, which is a whole number of them
  have hutc : ZonedTime.utcMicros ⟨c.wholeMillis, some (offsetMicros west minutes)⟩ = t.wholeMillis.micros := by
    obtain ⟨k, hk⟩ := offsetMicros_whole west minutes
    rw [ZonedTime.utcMicros, hshows.wholeMillis.toMicros, Option.getD_some]
    simp only [Instant.wholeMillis]
    omega
  have hinstant : ZonedTime.instant? ⟨c.wholeMillis, some (offsetMicros west minutes)⟩ = some t.wholeMillis :=
    Instant.ofMicros?_eq_some.mpr hutc
  rw [instantOf_str]
  simp only [textInstant, c.long?_text, isoInstant, hspelled, hread, hinstant, Option.isNone_some,
    Bool.false_eq_true, if_false]

theorem IsLocalTime.east {c : Civil} {t : Instant} {west : Bool} (h : IsLocalTime c t west 0) :
    IsLocalTime c t false 0 := by
  obtain ⟨⟨micros, hshows, hmicros⟩, hyear⟩ := h
  refine ⟨⟨micros, hshows, ?_⟩, hyear⟩
  cases west <;> simpa [offsetMicros] using hmicros

def epoch : Civil := ⟨⟨1970, 1, 1⟩, 0, 0, 0, 0⟩

theorem epoch_shows : epoch.Shows epochMicros := by
  have hepoch : Civil.ofMicros epochMicros = epoch := by decide
  exact hepoch ▸ Civil.ofMicros_shows epochMicros

@[simp] theorem utcMicros_ofInstant (t : Instant) : (ZonedTime.ofInstant t).utcMicros = t.micros := by
  simp only [ZonedTime.utcMicros, ZonedTime.ofInstant, t.civil_shows.toMicros, Option.getD_some, sub_zero]

@[simp] theorem epochMillis?_ofInstant (t : Instant) :
    (ZonedTime.ofInstant t).epochMillis? = some t.epochMillis := by
  rw [ZonedTime.epochMillis?, utcMicros_ofInstant]
  rfl

/-- Whatever the offset, the text of the local time of an instant stands for it, the letters for UTC are
an offset of zero, and its milliseconds are counted from the start of 1970. -/
theorem local_text_denotes {t : Instant} (hwhole : t.micros % 1000 = 0) {west : Bool} {minutes : Nat}
    (hminutes : minutes < 1440) {c : Civil} (hlocal : IsLocalTime c t west minutes) :
    instantOf (.str (c.text (offsetText west minutes))) = .ok t ∧
      (minutes = 0 → ∀ zone ∈ [Text.ofString "Z", Text.ofString "z", Text.ofString "+00:00"],
        instantOf (.str (c.text zone)) = .ok t) ∧
      ∃ start, epoch.Shows start ∧ ∃ millis, (ZonedTime.ofInstant t).epochMillis? = some millis ∧
        (t.micros : ℤ) = start + 1000 * millis := by
  refine ⟨?_, ?_, epochMicros, epoch_shows, t.epochMillis, epochMillis?_ofInstant t, ?_⟩
  · rw [hlocal.read hminutes (c.spellOffset_text west minutes), t.wholeMillis_of_whole hwhole]
  · rintro rfl zone hzone
    rw [hlocal.east.read hminutes (c.spellOffset_utc hzone), t.wholeMillis_of_whole hwhole]
  · rw [t.epochMillis_eq]
    simp only [epochMicros]
    omega

/-- The last millisecond of a leap day in UTC, fourteen hours to the east. -/
def leapDayEnd : Instant := ⟨63087465599999000, by decide⟩

theorem local_text_denotes_leap_day :
    IsLocalTime ⟨⟨2000, 3, 1⟩, 13, 59, 59, 999000⟩ leapDayEnd false 840 ∧
      instantOf (.str "2000-03-01T13:59:59.999+14:00") = .ok leapDayEnd := by
  have hshown : Civil.ofMicros 63087515999999000 = ⟨⟨2000, 3, 1⟩, 13, 59, 59, 999000⟩ := by decide
  have hlocal : IsLocalTime ⟨⟨2000, 3, 1⟩, 13, 59, 59, 999000⟩ leapDayEnd false 840 :=
    ⟨⟨63087515999999000, hshown ▸ Civil.ofMicros_shows _, rfl⟩, by decide⟩
  exact ⟨hlocal, (local_text_denotes rfl (by decide) hlocal).1⟩

end ClusterHarness.Time
