import ClusterHarness.Time.Instant
import Mathlib.Algebra.BigOperators.Group.List.Basic
import Mathlib.Tactic.IntervalCases

/-!
The calendar from its rule: a day is followed by the next day of its month, by the first of the next
month or by the first of the next year. Day numbers count the steps of this rule, and taking a day
number apart gives the date that so many steps lead to.
-/

namespace ClusterHarness.Time

def yearLength (year : Nat) : Nat := if isLeap year then 366 else 365

theorem isLeap_iff {year : Nat} : isLeap year ↔ year % 4 = 0 ∧ (year % 100 = 0 → year % 400 = 0) := by
  simp only [isLeap, Bool.and_eq_true, Bool.or_eq_true, beq_iff_eq, bne_iff_ne, ne_eq, imp_iff_not_or]

/-- A year by the cycles of 400, 100 and 4 years and the single years that are over before it. -/
structure Cycles (year a b c d : Nat) : Prop where
  centuries : b < 4
  fours : c < 25
  years : d < 4
  year_eq : year = 400 * a + 100 * b + 4 * c + d + 1

theorem exists_cycles {year : Nat} (h : 1 ≤ year) : ∃ a b c d, Cycles year a b c d :=
  ⟨(year - 1) / 400, (year - 1) % 400 / 100, (year - 1) % 100 / 4, (year - 1) % 4,
    by omega, by omega, by omega, by omega⟩

namespace Cycles

variable {year a b c d : Nat}

theorem daysBefore (h : Cycles year a b c d) :
    daysBeforeYear year = 146097 * a + 36524 * b + 1461 * c + 365 * d := by
  obtain ⟨hb, hc, hd, rfl⟩ := h
  have h4 : (400 * a + 100 * b + 4 * c + d) / 4 = 100 * a + 25 * b + c := by omega
  have h100 : (400 * a + 100 * b + 4 * c + d) / 100 = 4 * a + b := by omega
  have h400 : (400 * a + 100 * b + 4 * c + d) / 400 = a := by omega
  simp only [daysBeforeYear, Nat.add_sub_cancel, h4, h100, h400]
  omega

theorem length (h : Cycles year a b c d) :
    yearLength year = if d = 3 ∧ (c = 24 → b = 3) then 366 else 365 := by
  obtain ⟨hb, hc, hd, rfl⟩ := h
  have h4 : (400 * a + 100 * b + 4 * c + d + 1) % 4 = 0 ↔ d = 3 := by omega
  have h100 : (400 * a + 100 * b + 4 * c + d + 1) % 100 = 0 ↔ c = 24 ∧ d = 3 := by omega
  have h400 : (400 * a + 100 * b + 4 * c + d + 1) % 400 = 0 ↔ b = 3 ∧ c = 24 ∧ d = 3 := by omega
  have hleap : isLeap (400 * a + 100 * b + 4 * c + d + 1) = true ↔ d = 3 ∧ (c = 24 → b = 3) := by
    rw [isLeap_iff, h4, h100, h400]
    omega
  simp only [yearLength, hleap]

theorem next (h : Cycles year a b c d) :
    Cycles (year + 1) a b c (d + 1) ∧ d < 3 ∨ Cycles (year + 1) a b (c + 1) 0 ∧ d = 3 ∧ c < 24 ∨
      Cycles (year + 1) a (b + 1) 0 0 ∧ d = 3 ∧ c = 24 ∧ b < 3 ∨
      Cycles (year + 1) (a + 1) 0 0 0 ∧ d = 3 ∧ c = 24 ∧ b = 3 := by
  obtain ⟨hb, hc, hd, rfl⟩ := h
  by_cases hyears : d < 3
  · exact .inl ⟨⟨hb, hc, by omega, by omega⟩, hyears⟩
  by_cases hfours : c < 24
  · exact .inr (.inl ⟨⟨hb, by omega, by omega, by omega⟩, by omega, hfours⟩)
  by_cases hcenturies : b < 3
  · exact .inr (.inr (.inl ⟨⟨by omega, by omega, by omega, by omega⟩, by omega, by omega, hcenturies⟩))
  · exact .inr (.inr (.inr ⟨⟨by omega, by omega, by omega, by omega⟩, by omega, by omega, by omega⟩))

end Cycles

theorem daysBeforeYear_succ {year : Nat} (h : 1 ≤ year) :
    daysBeforeYear (year + 1) = daysBeforeYear year + yearLength year := by
  obtain ⟨a, b, c, d, hcycles⟩ := exists_cycles h
  rw [hcycles.daysBefore, hcycles.length]
  rcases hcycles.next with ⟨hnext, hd⟩ | ⟨hnext, hd, hc⟩ | ⟨hnext, hd, hc, hb⟩ | ⟨hnext, hd, hc, hb⟩
  · rw [hnext.daysBefore, if_neg (by omega)]
    omega
  · rw [hnext.daysBefore, if_pos (by omega)]
    omega
  · rw [hnext.daysBefore, if_neg (by omega)]
    omega
  · rw [hnext.daysBefore, if_pos (by omega)]
    omega

theorem daysBeforeYear_mono {y z : Nat} (hy : 1 ≤ y) (h : y ≤ z) : daysBeforeYear y ≤ daysBeforeYear z := by
  induction z, h using Nat.le_induction with
  | base => exact Nat.le_refl _
  | succ z hz ih => exact ih.trans (by simp [daysBeforeYear_succ (hy.trans hz)])

theorem splitDays_daysBeforeYear {year day : Nat} (h : 1 ≤ year) (hday : day < yearLength year) :
    splitDays (daysBeforeYear year + day) = (year, day) := by
  obtain ⟨a, b, c, d, hcycles⟩ := exists_cycles h
  rw [hcycles.daysBefore]
  rw [hcycles.length] at hday
  obtain ⟨hb, hc, hd, rfl⟩ := hcycles
  -- only the last year of a cycle has a day 366
  have hlast : day < 365 ∨ day = 365 ∧ d = 3 ∧ (c = 24 → b = 3) := by split at hday <;> omega
  have h400 : (146097 * a + 36524 * b + 1461 * c + 365 * d + day) / 146097 = a := by omega
  have r400 : (146097 * a + 36524 * b + 1461 * c + 365 * d + day) % 146097 =
      36524 * b + 1461 * c + 365 * d + day := by omega
  have h100 : min ((36524 * b + 1461 * c + 365 * d + day) / 36524) 3 = b := by omega
  have r100 : 36524 * b + 1461 * c + 365 * d + day - b * 36524 = 1461 * c + 365 * d + day := by omega
  have h4 : (1461 * c + 365 * d + day) / 1461 = c := by omega
  have r4 : (1461 * c + 365 * d + day) % 1461 = 365 * d + day := by omega
  have h1 : min ((365 * d + day) / 365) 3 = d := by omega
  simp only [splitDays, h400, r400, h100, r100, h4, r4, h1, Prod.mk.injEq]
  omega

/-! ### Months -/

theorem daysBeforeMonth_succ (year : Nat) {month : Nat} (h : 1 ≤ month) :
    daysBeforeMonth year (month + 1) = daysBeforeMonth year month + daysInMonth year month := by
  obtain ⟨m, rfl⟩ : ∃ m, month = m + 1 := ⟨month - 1, by omega⟩
  simp only [daysBeforeMonth, daysInMonth, Nat.add_sub_cancel, ← List.sum_eq_foldr, List.take_add_one,
    List.sum_append]
  cases (monthLengths (isLeap year))[m]? <;> rfl

theorem daysBeforeMonth_thirteen (year : Nat) : daysBeforeMonth year 13 = yearLength year := by
  cases hleap : isLeap year <;> simp [daysBeforeMonth, yearLength, hleap, monthLengths]

theorem daysInMonth_pos {year month : Nat} (h : 1 ≤ month) (h' : month ≤ 12) :
    1 ≤ daysInMonth year month := by
  cases hleap : isLeap year <;> interval_cases month <;> simp [daysInMonth, hleap, monthLengths]

theorem daysInMonth_le (year month : Nat) : daysInMonth year month ≤ 31 := by
  have hall : ∀ leap, ∀ length ∈ monthLengths leap, length ≤ 31 := by decide
  rw [daysInMonth]
  cases hlength : (monthLengths (isLeap year))[month - 1]? with
  | none => exact Nat.zero_le 31
  | some length => exact hall _ length (List.mem_of_getElem? hlength)

theorem splitYearDay_take (lengths : List Nat) (month : Nat) {k day : Nat}
    (h : day < (lengths[k]?).getD 0) :
    splitYearDay lengths month ((lengths.take k).sum + day) = (month + k, day + 1) := by
  induction lengths generalizing k month with
  | nil => simp at h
  | cons length more ih =>
    cases k with
    | zero =>
      have hday : day < length := h
      simp [splitYearDay, hday]
    | succ k =>
      have hpast : ¬length + (more.take k).sum + day < length := by omega
      have hrest : length + (more.take k).sum + day - length = (more.take k).sum + day := by omega
      rw [List.take_succ_cons, List.sum_cons, splitYearDay, if_neg hpast, hrest, ih (month + 1) h]
      congr 1
      omega

/-! ### Days -/

structure Date.Valid (d : Date) : Prop where
  year : 1 ≤ d.year
  month : 1 ≤ d.month ∧ d.month ≤ 12
  day : 1 ≤ d.day ∧ d.day ≤ daysInMonth d.year d.month

namespace Date

def first : Date := ⟨1, 1, 1⟩

def next (d : Date) : Date :=
  if d.day < daysInMonth d.year d.month then ⟨d.year, d.month, d.day + 1⟩
  else if d.month < 12 then ⟨d.year, d.month + 1, 1⟩
  else ⟨d.year + 1, 1, 1⟩

/-- The date so many days after the first of January of the year 1. -/
def after : Nat → Date
  | 0 => first
  | days + 1 => (after days).next

theorem valid_first : first.Valid := ⟨by decide, by decide, by decide⟩

variable {d : Date}

theorem Valid.next (h : d.Valid) : d.next.Valid := by
  obtain ⟨year, month, day⟩ := d
  obtain ⟨hyear, ⟨hmonth, hmonth'⟩, hday⟩ := h
  dsimp only at *
  unfold Date.next
  dsimp only
  split
  · exact ⟨hyear, ⟨hmonth, hmonth'⟩, by dsimp only; omega⟩
  split
  · have hpos : 1 ≤ daysInMonth year (month + 1) := daysInMonth_pos (by omega) (by omega)
    exact ⟨hyear, ⟨by dsimp only; omega, by dsimp only; omega⟩, Nat.le_refl 1, hpos⟩
  · have hpos : 1 ≤ daysInMonth (year + 1) 1 := daysInMonth_pos (by omega) (by omega)
    exact ⟨Nat.le_add_left 1 year, ⟨Nat.le_refl 1, Nat.le_add_left 1 11⟩, Nat.le_refl 1, hpos⟩

theorem toDays_next (h : d.Valid) : d.next.toDays = d.toDays + 1 := by
  obtain ⟨year, month, day⟩ := d
  obtain ⟨hyear, ⟨hmonth, hmonth'⟩, hday⟩ := h
  dsimp only at *
  unfold next
  dsimp only
  split
  · simp only [toDays]
    omega
  have hstep := daysBeforeMonth_succ year hmonth
  split
  · simp only [toDays]
    omega
  · obtain rfl : month = 12 := by omega
    have hstart : daysBeforeMonth (year + 1) 1 = 0 := rfl
    rw [daysBeforeMonth_thirteen] at hstep
    simp only [toDays, daysBeforeYear_succ hyear, hstart]
    omega

theorem valid_after (days : Nat) : (after days).Valid := by
  induction days with
  | zero => exact valid_first
  | succ days ih => exact ih.next

theorem toDays_after (days : Nat) : (after days).toDays = days := by
  induction days with
  | zero => rfl
  | succ days ih => rw [after, toDays_next (valid_after days), ih]

theorem yearDay_lt (h : d.Valid) : daysBeforeMonth d.year d.month + (d.day - 1) < yearLength d.year := by
  obtain ⟨hyear, hmonth, hday⟩ := h
  have hmono : ∀ m, d.month ≤ m → m ≤ 12 →
      daysBeforeMonth d.year (d.month + 1) ≤ daysBeforeMonth d.year (m + 1) := by
    intro m hm
    induction m, hm using Nat.le_induction with
    | base => exact fun _ => Nat.le_refl _
    | succ m hm ih =>
      intro hlast
      rw [daysBeforeMonth_succ d.year (Nat.le_add_left 1 m)]
      exact (ih (by omega)).trans (Nat.le_add_right _ _)
  have hend := hmono 12 hmonth.2 (Nat.le_refl 12)
  rw [daysBeforeMonth_thirteen, daysBeforeMonth_succ d.year hmonth.1] at hend
  omega

theorem ofDays_toDays (h : d.Valid) : ofDays d.toDays = d := by
  have hsplit := splitDays_daysBeforeYear h.year (yearDay_lt h)
  rw [← Nat.add_assoc] at hsplit
  have hday : d.day - 1 < ((monthLengths (isLeap d.year))[d.month - 1]?).getD 0 := by
    have hin := h.day
    rw [daysInMonth] at hin
    omega
  have hmonth := splitYearDay_take (monthLengths (isLeap d.year)) 1 hday
  rw [ofDays, toDays, hsplit]
  simp only [daysBeforeMonth, ← List.sum_eq_foldr, hmonth]
  obtain ⟨hyear, hm, hd⟩ := h
  rw [show 1 + (d.month - 1) = d.month by omega, show d.day - 1 + 1 = d.day by omega]

/-- Taking a day number apart gives the date that the rule of the calendar leads to. -/
theorem ofDays_eq_after (days : Nat) : ofDays days = after days := by
  rw [← ofDays_toDays (valid_after days), toDays_after]

theorem toDays_ofDays (days : Nat) : (ofDays days).toDays = days := by
  rw [ofDays_eq_after, toDays_after]

end Date

end ClusterHarness.Time
