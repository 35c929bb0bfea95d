import ClusterHarness.Proofs.Results
import ClusterHarness.Proofs.Time.Decimals

/-!
The ends of the calendar: the first day of the year 1 is over sooner in UTC than to the east of it, and
the last day of the year 9999 later than to the west. A time of one of these days is the only text that is
read and stands for no instant.
-/

namespace ClusterHarness.Time

/-! ### Parts of what is read -/

namespace IsoText

theorem digits?_lt {count value : Nat} {s rest : Bytes} (h : digits? count s = some (value, rest)) :
    value < 10 ^ count := by
  simp only [digits?] at h
  split at h
  · next hdigits =>
    obtain ⟨hlength, hall⟩ := hdigits
    have hlt : (s.take count).foldl (fun n d => 10 * n + (d.toNat - 48)) 0 < 10 ^ (s.take count).length := by
      refine foldl_digits_lt fun b hb => ?_
      have hdigit := List.all_eq_true.mp hall b hb
      simp only [isDigit, Bool.and_eq_true, decide_eq_true_eq, UInt8.le_iff_toNat_le] at hdigit
      have hupper : b.toNat ≤ 57 := hdigit.2
      omega
    cases h
    rwa [hlength] at hlt
  · cases h

theorem fraction?_lt {left micro : Nat} {s : Bytes} {more : Bool} (h : fraction? left s = some (micro, more)) :
    micro < 1000000 := by
  obtain ⟨⟨value, rest⟩, hdigits, heq⟩ := Option.bind_eq_some_iff.mp h
  obtain ⟨rfl, -⟩ := Prod.mk.inj (Option.some.inj heq)
  have hlt := digits?_lt hdigits
  calc value * Nat.pow 10 (6 - min left 6) < 10 ^ min left 6 * 10 ^ (6 - min left 6) :=
        Nat.mul_lt_mul_of_pos_right hlt (Nat.pow_pos (by decide))
    _ = 10 ^ 6 := by rw [← Nat.pow_add, Nat.add_sub_cancel' (Nat.min_le_right left 6)]

theorem clock?_micro_lt {left : Nat} {s : Bytes} {clock : Clock} {more : Bool}
    (h : clock? left s = some (clock, more)) : clock.micro < 1000000 := by
  obtain ⟨⟨values, ending⟩, -, hrest⟩ := Option.bind_eq_some_iff.mp h
  cases ending with
  | closed more =>
    cases hrest
    exact (by decide : 0 < 1000000)
  | fraction left s =>
    obtain ⟨⟨micro, followed⟩, hmicro, heq⟩ := Option.bind_eq_some_iff.mp hrest
    cases heq
    exact fraction?_lt hmicro

theorem time?_clock {s : Bytes} {clock : Clock} {offset : Option Int} (h : time? s = some (clock, offset)) :
    ∃ left more, clock? left s = some (clock, more) := by
  obtain ⟨⟨found, more⟩, hclock, hrest⟩ := Option.bind_eq_some_iff.mp h
  refine ⟨_, more, hclock.trans ?_⟩
  dsimp only at hrest
  split at hrest
  · cases more <;> cases hrest
    rfl
  split at hrest
  · split at hrest <;> cases hrest
    rfl
  · obtain ⟨⟨zone, rest⟩, -, hzone⟩ := Option.bind_eq_some_iff.mp hrest
    cases rest <;> cases hzone
    rfl

theorem parts?_micro_lt {t : Text} {civil : Civil} {offset : Option Int} (h : parts? t = some (civil, offset)) :
    civil.micro < 1000000 := by
  unfold parts? at h
  dsimp only at h
  split at h
  · cases h
  obtain ⟨date, -, hrest⟩ := Option.bind_eq_some_iff.mp h
  split at hrest
  · obtain ⟨⟨clock, found⟩, htime, heq⟩ := Option.bind_eq_some_iff.mp hrest
    cases heq
    obtain ⟨left, more, hclock⟩ := time?_clock htime
    exact clock?_micro_lt hclock
  · cases hrest
    exact (by decide : 0 < 1000000)

end IsoText

/-! ### Times of day -/

namespace Civil

variable {c : Civil}

def sinceMidnight (c : Civil) : Nat := ((c.hour * 60 + c.minute) * 60 + c.second) * 1000000 + c.micro

theorem toMicros_eq (c : Civil) : c.toMicros = (c.date.toDays * dayMicros + c.sinceMidnight : Nat) := by
  rw [toMicros, sinceMidnight, Nat.add_assoc]

/-- The date is in the calendar, and the time of day is one. -/
structure Sound (c : Civil) : Prop where
  date : c.date.Valid
  year : c.date.year ≤ maxYear
  time : c.sinceMidnight < dayMicros

theorem sound_of_fault? (h : c.fault? = none) (hmicro : c.micro < 1000000) : c.Sound := by
  unfold fault? at h
  split_ifs at h with hyear hmonth hday hhour hminute hsecond
  refine ⟨⟨by omega, by omega, by omega⟩, by omega, ?_⟩
  simp only [sinceMidnight, dayMicros]
  omega

theorem Sound.toDays_lt (h : c.Sound) : c.date.toDays < 3652059 := by
  rw [← Date.after_year_le, ← Date.ofDays_eq_after, Date.ofDays_toDays h.date]
  exact h.year

end Civil

theorem readIso_eq_ok {t : Text} {z : ZonedTime} (h : readIso t = .ok z) :
    z.civil.Sound ∧ ∀ offset, z.offset = some offset → offset.natAbs < dayMicros := by
  unfold readIso at h
  split at h
  · cases h
  next civil found hparts =>
  split at h
  · cases h
  next hoffset =>
  split at h
  · cases h
  next hfault =>
  cases h
  refine ⟨Civil.sound_of_fault? hfault (IsoText.parts?_micro_lt hparts), ?_⟩
  rintro offset rfl
  simpa using hoffset

/-! ### Leaving the calendar -/

namespace Date

def last : Date := ⟨9999, 12, 31⟩

variable {d : Date}

theorem Valid.eq_first_iff (h : d.Valid) : d = first ↔ d.toDays = 0 := by
  constructor
  · rintro rfl
    rfl
  · intro hdays
    rw [← ofDays_toDays h, hdays]
    rfl

theorem Valid.eq_last_iff (h : d.Valid) : d = last ↔ d.toDays = 3652058 := by
  constructor
  · rintro rfl
    rfl
  · intro hdays
    rw [← ofDays_toDays h, hdays]
    rfl

end Date

theorem Instant.ofMicros?_eq_none {micros : Int} : ofMicros? micros = none ↔ micros < 0 ∨ endOfTime ≤ micros := by
  unfold ofMicros?
  split
  · next hin => exact iff_of_false (Option.some_ne_none _) (by omega)
  · next hout => exact iff_of_true rfl (by omega)

namespace ZonedTime

/-- On the first day of the calendar before it starts in UTC, or on its last day when that is over in UTC. -/
def IsBeyond (z : ZonedTime) : Prop :=
  ∃ offset, z.offset = some offset ∧
    (z.civil.date = .first ∧ (z.civil.sinceMidnight : ℤ) < offset ∨
      z.civil.date = .last ∧ dayMicros ≤ z.civil.sinceMidnight - offset)

/-- As an offset is less than a day, it leads out of the calendar from its first and last day only. -/
theorem instant?_eq_none {z : ZonedTime} {offset : Int} (hcivil : z.civil.Sound) (hoffset : z.offset = some offset)
    (hday : offset.natAbs < dayMicros) : z.instant? = none ↔ z.IsBeyond := by
  have hutc : z.utcMicros = z.civil.date.toDays * dayMicros + z.civil.sinceMidnight - offset := by
    rw [utcMicros, Civil.toMicros_eq, hoffset, Option.getD_some]
    push_cast
    rfl
  have hend : (endOfTime : ℤ) = 3652059 * dayMicros := rfl
  have hlast := hcivil.toDays_lt
  have htime := hcivil.time
  have hbeyond : z.IsBeyond ↔ z.civil.date.toDays = 0 ∧ (z.civil.sinceMidnight : ℤ) < offset ∨
      z.civil.date.toDays = 3652058 ∧ dayMicros ≤ z.civil.sinceMidnight - offset := by
    simp only [IsBeyond, hoffset, Option.some.injEq, exists_eq_left', hcivil.date.eq_first_iff,
      hcivil.date.eq_last_iff]
  rw [instant?, Instant.ofMicros?_eq_none, hbeyond, hutc, hend]
  simp only [dayMicros] at *
  omega

end ZonedTime

/-- A text that is no integer and spells a time outside the calendar. -/
def LeavesCalendar (raw : Json) : Prop :=
  ∃ t z, raw = .str t ∧ long? t = .ok none ∧ readIso (spellOffset t) = .ok z ∧ z.IsBeyond

open TimestampError (IsOfValue)

theorem isoInstant_escapes {t : Text} :
    Escapes IsOfValue (isoInstant t) ↔ ∃ z, readIso (spellOffset t) = .ok z ∧ z.IsBeyond := by
  cases hread : readIso (spellOffset t) with
  | error e =>
    refine iff_of_false ?_ (by simp)
    cases e <;> simp only [isoInstant, hread] <;> exact not_escapes_error trivial
  | ok z =>
    simp only [Except.ok.injEq, exists_eq_left']
    obtain ⟨hcivil, hday⟩ := readIso_eq_ok hread
    cases hoffset : z.offset with
    | none =>
      refine iff_of_false ?_ (by simp [ZonedTime.IsBeyond, hoffset])
      simp only [isoInstant, hread, hoffset, Option.isNone_none, if_true]
      exact not_escapes_error trivial
    | some offset =>
      rw [← ZonedTime.instant?_eq_none hcivil hoffset (hday offset hoffset)]
      simp only [isoInstant, hread, hoffset, Option.isNone_some, Bool.false_eq_true, if_false]
      cases z.instant? with
      | none => exact iff_of_true (escapes_error.mpr id) rfl
      | some i => exact iff_of_false (not_escapes_ok i) (Option.some_ne_none i)

theorem textInstant_escapes {t : Text} :
    Escapes IsOfValue (textInstant t) ↔ long? t = .ok none ∧ ∃ z, readIso (spellOffset t) = .ok z ∧ z.IsBeyond := by
  rw [← isoInstant_escapes]
  cases hlong : long? t with
  | error limit =>
    refine iff_of_false ?_ (by simp)
    simp only [textInstant, hlong]
    exact not_escapes_error trivial
  | ok found =>
    cases found with
    | none => simp [textInstant, hlong]
    | some n =>
      refine iff_of_false ?_ (by simp)
      simp only [textInstant, hlong]
      cases Instant.ofEpochMillis? n with
      | none => exact not_escapes_error trivial
      | some i => exact not_escapes_ok i

theorem instantOf_int_not_escapes (n : Int) : ¬Escapes IsOfValue (instantOf (.int n)) := by
  rw [instantOf_int, ← decimalText_plain]
  cases h : Instant.ofEpochMillis? n with
  | some i =>
    rw [textInstant_decimalText_of_some false (Nat.zero_le _) h]
    exact not_escapes_ok i
  | none =>
    obtain ⟨e, he, htext⟩ := textInstant_decimalText_of_none false 0 h
    rw [htext]
    exact not_escapes_error he

/-- Whatever the timestamp, it is read or blamed, but for a time outside the calendar. -/
theorem instantOf_escapes (raw : Json) : Escapes IsOfValue (instantOf raw) ↔ LeavesCalendar raw := by
  cases raw with
  | str t => simp [LeavesCalendar, textInstant_escapes]
  | int n => exact iff_of_false (instantOf_int_not_escapes n) nofun
  | _ => exact iff_of_false (not_escapes_error trivial) nofun

end ClusterHarness.Time
