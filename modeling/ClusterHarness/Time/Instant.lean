import ClusterHarness.Time.Calendar

/-!
Instants: points in time of the years 1 to 9999, to the microsecond, and civil times with an offset.
-/

namespace ClusterHarness.Time

/-- The end of the last year, in microseconds from the start of the year 1. -/
def endOfTime : Nat := 315537897600000000

/-- The start of 1970, in microseconds from the start of the year 1. -/
def epochMicros : Nat := 62135596800000000

/-- A point in time, in microseconds from the start of the year 1. -/
structure Instant where
  micros : Nat
  inCalendar : micros < endOfTime
  deriving DecidableEq, Repr

namespace Instant

def ofMicros? (micros : Int) : Option Instant :=
  if h : 0 ≤ micros ∧ micros < endOfTime then some ⟨micros.toNat, by omega⟩ else none

def civil (t : Instant) : Civil := Civil.ofMicros t.micros

/-- Milliseconds from the start of 1970, rounded down. -/
def epochMillis (t : Instant) : Int := ((t.micros : Int) - epochMicros).fdiv 1000

def ofEpochMillis? (n : Int) : Option Instant := ofMicros? (epochMicros + n * 1000)

end Instant

/-- Why a sum of an instant and a duration is no instant. -/
inductive ShiftError where
  | outsideCalendar
  | tooManyDays (days : Int)
  deriving DecidableEq, Repr

/-- The instant that follows by a number of milliseconds. -/
def Instant.shift (t : Instant) (millis : Int) : Except ShiftError Instant :=
  let days := millis.fdiv 86400000
  if 999999999 < days.natAbs then .error (.tooManyDays days)
  else match ofMicros? (t.micros + millis * 1000) with
    | some t => .ok t
    | none => .error .outsideCalendar

/-- A civil time at an offset from UTC in microseconds; none is a time without an offset. -/
structure ZonedTime where
  civil : Civil
  offset : Option Int
  deriving DecidableEq, Repr

namespace ZonedTime

/-- Microseconds from the start of the year 1 in UTC, a missing offset being zero. -/
def utcMicros (t : ZonedTime) : Int := t.civil.toMicros - t.offset.getD 0

/-- The instant in UTC, if it lies in the calendar. -/
def instant? (t : ZonedTime) : Option Instant := Instant.ofMicros? t.utcMicros

/-- Milliseconds from the start of 1970, rounded down, whatever the year in UTC; a time without an
offset has none. -/
def epochMillis? (t : ZonedTime) : Option Int :=
  t.offset.map fun _ => (t.utcMicros - epochMicros).fdiv 1000

def ofInstant (t : Instant) : ZonedTime := ⟨t.civil, some 0⟩

end ZonedTime

end ClusterHarness.Time
