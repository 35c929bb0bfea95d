import ClusterHarness.Proofs.Time.Forms

/-!
Moving timestamps by milliseconds again and again: each step reads what the one before has written, and
together they are one step by the sum.
-/

namespace ClusterHarness.Time

open TimestampForm

variable {i j : Instant}

/-- Each number of milliseconds leads to an instant, and those on the way are of the years from 1000 on. -/
def Instant.Passes (i : Instant) : List Int → Prop
  | [] => True
  | millis :: more =>
    ∃ j : Instant, (j.micros : ℤ) = i.micros + millis * 1000 ∧ (more ≠ [] → 1000 ≤ j.civil.date.year) ∧
      j.Passes more

namespace Instant

def SameMilli (i j : Instant) : Prop := i.micros / 1000 = j.micros / 1000

theorem SameMilli.year (h : i.SameMilli j) : i.civil.date.year = j.civil.date.year := by
  have hday : i.micros / dayMicros = j.micros / dayMicros := by
    simp only [SameMilli, dayMicros] at *
    omega
  rw [i.civil_shows.date, j.civil_shows.date, hday]

theorem SameMilli.isoText_eq (h : i.SameMilli j) : isoText i.civil = isoText j.civil := by
  have hwhole : ∀ c : Civil, isoText c = isoText c.wholeMillis := by
    intro c
    have hmilli : c.micro / 1000 * 1000 / 1000 = c.micro / 1000 := by omega
    simp only [isoText, Civil.wholeMillis, hmilli]
  have hi := i.civil_shows.wholeMillis.eq_ofMicros
  have hj := j.civil_shows.wholeMillis.eq_ofMicros
  rw [hwhole, hwhole j.civil, hi, hj, h]

theorem SameMilli.write (h : i.SameMilli j) (form : TimestampForm) : i.write form = j.write form := by
  have hmillis : i.epochMillis = j.epochMillis := by
    rw [epochMillis_eq, epochMillis_eq, h]
  cases form with
  | integer => rw [Instant.write, Instant.write, hmillis]
  | longText => rw [Instant.write, Instant.write, hmillis]
  | iso => rw [write_iso, write_iso, h.isoText_eq]

end Instant

end ClusterHarness.Time
