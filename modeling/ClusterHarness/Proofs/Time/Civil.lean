import ClusterHarness.Proofs.Time.Calendar

/-!
Civil times and instants: a number of microseconds is shown by one date and time of day, and an instant
by one of the years 1 to 9999.
-/

namespace ClusterHarness.Time

theorem Date.lt_daysBeforeYear {d : Date} (h : d.Valid) : d.toDays < daysBeforeYear (d.year + 1) := by
  have hday := yearDay_lt h
  rw [daysBeforeYear_succ h.year, toDays]
  omega

theorem Date.after_year_le {days : Nat} : (after days).year ≤ maxYear ↔ days < 3652059 := by
  have hvalid := valid_after days
  have hend : daysBeforeYear (maxYear + 1) = 3652059 := rfl
  have hdays := toDays_after days
  constructor
  · intro hyear
    have hmono := daysBeforeYear_mono (Nat.le_add_left 1 _) (Nat.add_le_add_right hyear 1)
    have hlt := lt_daysBeforeYear hvalid
    omega
  · intro hlt
    by_contra hyear
    have hmono := daysBeforeYear_mono (Nat.le_add_left 1 maxYear) (Nat.lt_of_not_le hyear)
    rw [toDays] at hdays
    omega

/-- The civil time so many microseconds after the start of the year 1. -/
structure Civil.Shows (c : Civil) (micros : Nat) : Prop where
  date : c.date = .after (micros / dayMicros)
  clock : ((c.hour * 60 + c.minute) * 60 + c.second) * 1000000 + c.micro = micros % dayMicros
  minute : c.minute < 60
  second : c.second < 60
  micro : c.micro < 1000000

namespace Civil

variable {c : Civil} {micros : Nat}

theorem ofMicros_shows (micros : Nat) : (ofMicros micros).Shows micros := by
  refine ⟨Date.ofDays_eq_after _, ?_, Nat.mod_lt _ (by decide), Nat.mod_lt _ (by decide), Nat.mod_lt _ (by decide)⟩
  simp only [ofMicros]
  omega

namespace Shows

theorem hour (h : c.Shows micros) : c.hour < 24 := by
  have hclock := h.clock
  have hlt : micros % dayMicros < dayMicros := Nat.mod_lt _ (by decide)
  simp only [dayMicros] at *
  omega

theorem toMicros (h : c.Shows micros) : c.toMicros = micros := by
  rw [Civil.toMicros, h.date, Date.toDays_after, Nat.add_assoc, h.clock, Nat.mul_comm, Nat.div_add_mod]

theorem eq_ofMicros (h : c.Shows micros) : c = ofMicros micros := by
  obtain ⟨date, hour, minute, second, micro⟩ := c
  obtain ⟨hdate, hclock, hminute, hsecond, hmicro⟩ := h
  dsimp only at hdate hclock hminute hsecond hmicro
  simp only [ofMicros, Date.ofDays_eq_after, ← hdate, ← hclock, Civil.mk.injEq, true_and]
  omega

theorem fault?_eq_none (h : c.Shows micros) (hyear : c.date.year ≤ maxYear) : c.fault? = none := by
  have hvalid : c.date.Valid := h.date ▸ Date.valid_after _
  obtain ⟨hfirst, ⟨hmonth, hmonth'⟩, hday, hday'⟩ := hvalid
  have hhour := h.hour
  have hminute := h.minute
  have hsecond := h.second
  rw [fault?, if_neg (by omega), if_neg (by omega), if_neg (by omega), if_neg (by omega), if_neg (by omega),
    if_neg (by omega)]

theorem year_le (h : c.Shows micros) : c.date.year ≤ maxYear ↔ micros < endOfTime := by
  rw [h.date, Date.after_year_le, Nat.div_lt_iff_lt_mul (by decide)]
  rfl

end Shows

end Civil

namespace Instant

theorem civil_shows (t : Instant) : t.civil.Shows t.micros := Civil.ofMicros_shows t.micros

theorem civil_year_le (t : Instant) : t.civil.date.year ≤ maxYear := t.civil_shows.year_le.mpr t.inCalendar

theorem ofMicros?_micros (t : Instant) : ofMicros? t.micros = some t := by
  have hin : 0 ≤ (t.micros : ℤ) ∧ (t.micros : ℤ) < endOfTime :=
    ⟨Int.natCast_nonneg _, Int.ofNat_lt.mpr t.inCalendar⟩
  rw [ofMicros?, dif_pos hin]
  rfl

theorem ofMicros?_eq_some {micros : ℤ} {t : Instant} : ofMicros? micros = some t ↔ micros = t.micros := by
  constructor
  · intro h
    unfold ofMicros? at h
    split at h
    · next hin =>
      cases h
      exact (Int.toNat_of_nonneg hin.1).symm
    · cases h
  · rintro rfl
    exact ofMicros?_micros t

end Instant

end ClusterHarness.Time
