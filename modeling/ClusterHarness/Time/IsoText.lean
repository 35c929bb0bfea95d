import ClusterHarness.Text.Utf8
import ClusterHarness.Time.Instant

/-!
Reading ISO 8601 texts of a date and a time. Dates are months and days or weeks and days, with or
without hyphens; any one character stands between date and time; the time has two, four or six digits,
with or without colons, and a fraction; an offset has the form of a time.

The text is read as UTF-8 bytes, and a zero byte is the end of the text wherever an end is looked for.
-/

namespace ClusterHarness.Time

/-- Why a text is no time. -/
inductive IsoError where
  | malformed
  | civil (fault : CivilFault)
  /-- The offset is a day or more; it is given in microseconds. -/
  | offset (micros : Int)
  deriving DecidableEq, Repr

namespace IsoText

def isDigit (b : UInt8) : Bool := 48 ≤ b && b ≤ 57

def hyphen : UInt8 := 45
def colon : UInt8 := 58
def letterW : UInt8 := 87

/-- Reads a fixed number of digits. -/
def digits? : Nat → Bytes → Option (Nat × Bytes)
  | count, s =>
    let ds := s.take count
    if ds.length = count ∧ ds.all isDigit then
      some (ds.foldl (fun n d => 10 * n + (d.toNat - 48)) 0, s.drop count)
    else none

def next (s : Bytes) : UInt8 := s.headD 0

/-- A byte, which must be there. -/
def expect? (b : UInt8) (s : Bytes) : Option Bytes := if next s = b then some s.tail else none

/-- Where the date ends, told from the fifth and sixth byte. After a week the digits that follow are
counted: times come in pairs of digits, so their number tells whether a day of the week comes first. -/
def dateLength (s : Bytes) : Nat :=
  let byteAt (i : Nat) : UInt8 := s.getD i 0
  if s.length = 7 then 7
  else if byteAt 4 = hyphen then
    if byteAt 5 = letterW then
      if 8 < s.length ∧ byteAt 8 = hyphen then
        if 10 < s.length ∧ isDigit (byteAt 10) then 8 else 10
      else 8
    else 10
  else if byteAt 4 = letterW then
    let stop := 7 + ((s.drop 7).takeWhile isDigit).length
    if stop < 9 then stop else if stop % 2 = 0 then 7 else 8
  else 8

/-- The date of a day of an ISO week. The days of the year 0 are in no month. -/
def weekDate? (year week day : Nat) : Option Date :=
  if day < 1 ∨ 7 < day ∨ week < 1 ∨ 53 < week ∨ (week = 53 ∧ (year = 0 ∨ !hasWeek53 year)) then none
  else if year = 0 then some ⟨1, 0, 0⟩
  else some (Date.ofDays (firstMonday year + (week - 1) * 7 + (day - 1)))

/-- Reads the date of a text whose date part has the given length. -/
def date? (s : Bytes) (length : Nat) : Option Date := do
  let (year, s₁) ← digits? 4 s
  let hyphens := next s₁ == hyphen
  let s₂ := if hyphens then s₁.tail else s₁
  if next s₂ = letterW then
    let (week, s₃) ← digits? 2 s₂.tail
    if s.length - s₃.length < length then
      let s₄ ← if hyphens then expect? hyphen s₃ else some s₃
      let (day, _) ← digits? 1 s₄
      weekDate? year week day
    else weekDate? year week 1
  else
    let (month, s₃) ← digits? 2 s₂
    let s₄ ← if hyphens then expect? hyphen s₃ else some s₃
    let (day, _) ← digits? 2 s₄
    return ⟨year, month, day⟩

/-- How the hours, minutes and seconds end: with the part itself, and whether a byte follows, or
before a fraction of which so many bytes are left. -/
inductive Ending where
  | closed (more : Bool)
  | fraction (left : Nat) (s : Bytes)

/-- Reads up to `count` pairs of digits from a part that has `left` bytes; once known, `separated`
says whether colons stand between them. A third colon or a point starts the fraction. -/
def pairs? : Nat → Option Bool → Int → Bytes → Option (List Nat × Ending)
  | 0, _, left, s => some ([], .fraction left.toNat s)
  | count + 1, separated, left, s => do
    let (v, s) ← digits? 2 s
    let c := next s
    let separated := separated.getD (c == colon)
    let left := left - 3
    if left ≤ 0 then return ([v], .closed (c != 0))
    else if separated && c == colon then
      let (vs, ending) ← pairs? count (some separated) left s.tail
      return (v :: vs, ending)
    else if c = 46 ∨ c = 44 then return ([v], .fraction left.toNat s.tail)
    else if !separated then
      let (vs, ending) ← pairs? count (some separated) (left + 1) s
      return (v :: vs, ending)
    else none

/-- Microseconds from up to six digits of a fraction; the digits after these are left out. The flag
says whether something follows. -/
def fraction? (left : Nat) (s : Bytes) : Option (Nat × Bool) := do
  let count := min left 6
  let (v, s) ← digits? count s
  return (v * Nat.pow 10 (6 - count), next (s.dropWhile isDigit) != 0)

structure Clock where
  hour : Nat
  minute : Nat
  second : Nat
  micro : Nat

/-- Reads a time of day from a part that has `left` bytes; the flag says whether something follows. -/
def clock? (left : Nat) (s : Bytes) : Option (Clock × Bool) := do
  let (vs, ending) ← pairs? 3 none left s
  let (micro, more) ← match ending with
    | .closed more => some (0, more)
    | .fraction left s => fraction? left s
  return (⟨vs.getD 0 0, vs.getD 1 0, vs.getD 2 0, micro⟩, more)

def startsOffset (b : UInt8) : Bool := b == 43 || b == hyphen || b == 90

/-- Reads a time of day and the offset after it, in microseconds. -/
def time? (s : Bytes) : Option (Clock × Option Int) := do
  let lead := (s.takeWhile (!startsOffset ·)).length
  let (clock, more) ← clock? lead s
  let zone := s.drop lead
  match zone with
  | [] => if more then none else return (clock, none)
  | b :: zone =>
    if b = 90 then
      if next zone = 0 then return (clock, some 0) else none
    else
      let (offset, more) ← clock? zone.length zone
      if more then none
      else
        let seconds := (offset.hour * 60 + offset.minute) * 60 + offset.second
        let micros : Int := if seconds = 0 then 0 else (seconds * 1000000 + offset.micro : Nat)
        return (clock, some (if b = hyphen then -micros else micros))

/-- The length in bytes of the character that starts with a byte. -/
def charLength (b : UInt8) : Nat :=
  if b < 0x80 then 1 else if b &&& 0xF0 = 0xE0 then 3 else if b &&& 0xF0 = 0xF0 then 4 else 2

/-- The positions at which the character between date and time can stand. -/
def separatorPositions : List Nat := [7, 8, 10]

/-- The text with a letter in place of a surrogate between date and time. -/
def plainSeparator (t : Text) : Text :=
  match separatorPositions.find? fun i => (t[i]?).any CodePoint.isSurrogate with
  | some i => t.set i 84
  | none => t

/-- Reads a text into the parts of a civil time and the offset, all unchecked. -/
def parts? (t : Text) : Option (Civil × Option Int) := do
  let t := plainSeparator t
  if t.length < 7 ∨ t.any CodePoint.isSurrogate then none
  let s := Utf8.encode t
  let length := dateLength s
  let date ← date? s length
  if length < s.length then
    let s := s.drop length
    let (clock, offset) ← time? (s.drop (charLength (next s)))
    return (⟨date, clock.hour, clock.minute, clock.second, clock.micro⟩, offset)
  else return (⟨date, 0, 0, 0, 0⟩, none)

end IsoText

/-- Reads an ISO 8601 text. The offset is checked before the date. -/
def readIso (t : Text) : Except IsoError ZonedTime :=
  match IsoText.parts? t with
  | none => .error .malformed
  | some (civil, offset) =>
    if (offset.any fun micros => dayMicros ≤ micros.natAbs) then .error (.offset (offset.getD 0))
    else match civil.fault? with
      | some fault => .error (.civil fault)
      | none => .ok ⟨civil, offset⟩

end ClusterHarness.Time
