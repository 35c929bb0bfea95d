/-!
The calendar: dates of the years 1 to 9999 as numbers of days from the first of January of the year 1.
A day number is taken apart by cycles of 400, 100, 4 and single years.
-/

namespace ClusterHarness.Time

structure Date where
  year : Nat
  month : Nat
  day : Nat
  deriving DecidableEq, Repr

def isLeap (year : Nat) : Bool := year % 4 == 0 && (year % 100 != 0 || year % 400 == 0)

def monthLengths (leap : Bool) : List Nat :=
  [31, if leap then 29 else 28, 31, 30, 31, 30, 31, 31, 30, 31, 30, 31]

def daysInMonth (year month : Nat) : Nat := ((monthLengths (isLeap year))[month - 1]?).getD 0

/-- The days before the first of January of a year. -/
def daysBeforeYear (year : Nat) : Nat :=
  let y := year - 1
  y * 365 + y / 4 - y / 100 + y / 400

def daysBeforeMonth (year month : Nat) : Nat := ((monthLengths (isLeap year)).take (month - 1)).foldr (· + ·) 0

def Date.toDays (d : Date) : Nat := daysBeforeYear d.year + daysBeforeMonth d.year d.month + (d.day - 1)

/-- The month and the day of a day of the year, given the lengths of the months left. -/
def splitYearDay : List Nat → Nat → Nat → Nat × Nat
  | [], month, day => (month, day + 1)
  | length :: more, month, day =>
    if day < length then (month, day + 1) else splitYearDay more (month + 1) (day - length)

/-- The year of a day, and the day of that year counted from zero. -/
def splitDays (days : Nat) : Nat × Nat :=
  let n400 := days / 146097
  let r400 := days % 146097
  let n100 := min (r400 / 36524) 3
  let r100 := r400 - n100 * 36524
  let n4 := r100 / 1461
  let r4 := r100 % 1461
  let n1 := min (r4 / 365) 3
  (n400 * 400 + n100 * 100 + n4 * 4 + n1 + 1, r4 - n1 * 365)

def Date.ofDays (days : Nat) : Date :=
  let (year, yearDay) := splitDays days
  let (month, day) := splitYearDay (monthLengths (isLeap year)) 1 yearDay
  ⟨year, month, day⟩

/-- The day of the week of a day number, Monday being zero. -/
def weekday (days : Nat) : Nat := days % 7

/-- The Monday of the week that holds the first Thursday of a year. The answer is exact from the
year 1 on, whose first day is a Monday. -/
def firstMonday (year : Nat) : Nat :=
  let first := daysBeforeYear year
  let w := weekday first
  if w ≤ 3 then first - w else first + 7 - w

/-- A year has a week 53 if it starts on a Thursday, or on a Wednesday with a leap day. -/
def hasWeek53 (year : Nat) : Bool :=
  let w := weekday (daysBeforeYear year)
  w == 3 || (w == 2 && isLeap year)

def maxYear : Nat := 9999

/-- A time of day on a date. -/
structure Civil where
  date : Date
  hour : Nat
  minute : Nat
  second : Nat
  micro : Nat
  deriving DecidableEq, Repr

/-- The first part of a civil time that is out of its range. -/
inductive CivilFault where
  | year (year : Nat)
  | month
  | day
  | hour
  | minute
  | second
  deriving DecidableEq, Repr

def Civil.fault? (c : Civil) : Option CivilFault :=
  if c.date.year < 1 ∨ maxYear < c.date.year then some (.year c.date.year)
  else if c.date.month < 1 ∨ 12 < c.date.month then some .month
  else if c.date.day < 1 ∨ daysInMonth c.date.year c.date.month < c.date.day then some .day
  else if 23 < c.hour then some .hour
  else if 59 < c.minute then some .minute
  else if 59 < c.second then some .second
  else none

def dayMicros : Nat := 86400000000

/-- Microseconds from the start of the year 1. -/
def Civil.toMicros (c : Civil) : Int :=
  (c.date.toDays * dayMicros + ((c.hour * 60 + c.minute) * 60 + c.second) * 1000000 + c.micro : Nat)

def Civil.ofMicros (micros : Nat) : Civil :=
  let t := micros % dayMicros
  ⟨Date.ofDays (micros / dayMicros), t / 3600000000, t / 60000000 % 60, t / 1000000 % 60, t % 1000000⟩

end ClusterHarness.Time
