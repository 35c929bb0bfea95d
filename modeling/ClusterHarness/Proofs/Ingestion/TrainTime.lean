import ClusterHarness.Proofs.Ingestion.Loading
import ClusterHarness.Proofs.Time.CalendarEdge

/-!
Train times: the time of the last training record is its timestamp's, and what is wrong with the timestamp
is an error of ingestion, unless the time lies outside the calendar.
-/

namespace ClusterHarness

open Time

def Failure.IsIngest : Failure → Prop
  | .ingest _ => True
  | _ => False

namespace Ingestion

def LastTimestamp (records : List Json) (split : Int) (raw : Json) : Prop :=
  ∃ fields, records[(split - 1).toNat]? = some (.obj fields) ∧
    Fields.get? Dataset.timestampField fields = some raw

/-- What comes of the last timestamp: its time, or an error of ingestion unless it leaves the calendar. -/
structure ReportsTrainTime (records : List Json) (split : Int) : Prop where
  read : ∀ i, trainTime (.arr records) split = .ok i ↔
    ∃ raw, LastTimestamp records split raw ∧ instantOf raw = .ok i
  escapes : Escapes Failure.IsIngest (trainTime (.arr records) split) ↔
    ∃ raw, LastTimestamp records split raw ∧ LeavesCalendar raw

variable {records : List Json} {split : Int}

theorem LastTimestamp.eq {raw other : Json} (h : LastTimestamp records split raw)
    (hother : LastTimestamp records split other) : other = raw := by
  obtain ⟨fields, hlast, hget⟩ := h
  obtain ⟨fields', hlast', hget'⟩ := hother
  cases hlast.symm.trans hlast'
  exact Option.some.inj (hget'.symm.trans hget)

theorem reportsTrainTime_untimed {e : IngestError} (htrain : trainTime (.arr records) split = .error (.ingest e))
    (hnone : ∀ raw, LastTimestamp records split raw → raw = .null) : ReportsTrainTime records split where
  read i := by
    refine iff_of_false (by rw [htrain]; exact nofun) ?_
    rintro ⟨raw, hraw, hi⟩
    cases hnone raw hraw
    cases hi
  escapes := by
    refine iff_of_false (htrain ▸ not_escapes_error trivial) ?_
    rintro ⟨raw, hraw, t, z, hstr, -⟩
    cases (hnone raw hraw).symm.trans hstr

theorem reportsTrainTime_timed {raw : Json} (hlast : LastTimestamp records split raw)
    (htrain : trainTime (.arr records) split = match instantOf raw with
      | .ok i => .ok i
      | .error .beyondCalendar => .error (.timestamp .beyondCalendar)
      | .error e => .error (.ingest (.badTimestamp raw e))) : ReportsTrainTime records split := by
  have hread : ∀ {p : Json → Prop}, (∃ r, LastTimestamp records split r ∧ p r) ↔ p raw := by
    intro p
    constructor
    · rintro ⟨r, hr, hp⟩
      exact hlast.eq hr ▸ hp
    · exact fun hp => ⟨raw, hlast, hp⟩
  constructor
  · intro i
    rw [hread, htrain]
    cases instantOf raw with
    | ok j => simp only [Except.ok.injEq]
    | error e => cases e <;> exact iff_of_false nofun nofun
  · rw [hread, ← instantOf_escapes, htrain]
    cases instantOf raw with
    | ok i => exact iff_of_false (not_escapes_ok i) (not_escapes_ok i)
    | error e =>
      cases e with
      | beyondCalendar => exact iff_of_true (escapes_error.mpr id) (escapes_error.mpr id)
      | _ => exact iff_of_false (not_escapes_error trivial) (not_escapes_error trivial)

theorem reportsTrainTime {fields : Fields Json} (hpos : 1 ≤ split)
    (hlast : records[(split - 1).toNat]? = some (.obj fields)) : ReportsTrainTime records split := by
  have htrain := trainTime_of_last hpos hlast
  cases hget : Fields.get? Dataset.timestampField fields with
  | none =>
    rw [hget] at htrain
    refine reportsTrainTime_untimed htrain ?_
    rintro raw ⟨fields', hlast', hget'⟩
    cases hlast.symm.trans hlast'
    cases hget.symm.trans hget'
  | some raw =>
    have hraw : LastTimestamp records split raw := ⟨fields, hlast, hget⟩
    rw [hget] at htrain
    cases raw with
    | null => exact reportsTrainTime_untimed htrain fun r hr => hraw.eq hr
    | _ => exact reportsTrainTime_timed hraw htrain

/-- A timestamp is read or blamed, whatever value it is, and so a train time is the last timestamp's or an
error of ingestion. Only a time outside the calendar is reported otherwise. -/
theorem unreadable_times_are_blamed (records : List Json) (split : Int)
    (hobjects : ∀ record ∈ records, ∃ fields, record = .obj fields) (hpos : 1 ≤ split)
    (hle : split ≤ records.length) :
    (∀ raw, Escapes TimestampError.IsOfValue (instantOf raw) ↔ LeavesCalendar raw) ∧
      ReportsTrainTime records split := by
  obtain ⟨fields, hlast⟩ := exists_last hpos hle hobjects
  exact ⟨instantOf_escapes, reportsTrainTime hpos hlast⟩

/-- The first hours of the calendar are read, but to the east they are not in it yet. -/
def dawnRecords : List Json :=
  [.obj [("timestamp", .int 0)], .obj [("value", .null), ("timestamp", .str "0001-01-01T00:00:00+01:00")]]

theorem unreadable_times_are_blamed_of_dawn :
    (∀ record ∈ dawnRecords, ∃ fields, record = .obj fields) ∧ (1 : Int) ≤ 2 ∧ 2 ≤ dawnRecords.length ∧
      ReportsTrainTime dawnRecords 2 := by
  have hobjects : ∀ record ∈ dawnRecords, ∃ fields, record = .obj fields := by simp [dawnRecords]
  exact ⟨hobjects, by decide, by decide,
    (unreadable_times_are_blamed dawnRecords 2 hobjects (by decide) (by decide)).2⟩

/-- A time that is read and lies before the year 1 in UTC is no error of ingestion. -/
theorem dawn_is_not_blamed :
    instantOf (.str "0001-01-01T00:00:00+01:00") = .error .beyondCalendar ∧
      trainTime (.arr dawnRecords) 2 = .error (.timestamp .beyondCalendar) :=
  ⟨rfl, rfl⟩

end Ingestion

end ClusterHarness
