import ClusterHarness.Json.Literal
import ClusterHarness.Json.Reader
import ClusterHarness.Number.Numeral
import ClusterHarness.Time.IsoText

/-!
Timestamps of fixture records. An integer, or a text that holds a signed 64-bit integer, counts
milliseconds from the start of 1970; any other text is an ISO 8601 time with an offset. A time is
written back in the form of the timestamp it stands for.
-/

namespace ClusterHarness.Time

/-- A text of so many digits is not turned into a number. -/
structure DigitLimit where
  count : Nat
  deriving DecidableEq, Repr

def DigitLimit.message (e : DigitLimit) : Text := Json.tooManyDigitsMessage e.count

/-- The signed 64-bit integer that a text holds, if it holds one. -/
def long? (t : Text) : Except DigitLimit (Option Int) :=
  match Numeral.ofText? t with
  | none => .ok none
  | some n =>
    if n.tooLong then .error ⟨n.digits.length⟩
    else .ok (if isLong n.value then some n.value else none)

/-- Whether a value is a text that holds a signed 64-bit integer. -/
def isLongText : Json → Except DigitLimit Bool
  | .str t => (long? t).map Option.isSome
  | _ => .ok false

inductive TimestampError where
  | unsupported (value : Json)
  | outOfRange (text : Text)
  | malformed (iso : Text)
  | badPart (fault : CivilFault)
  /-- An offset of a day or more, in microseconds. -/
  | badOffset (micros : Int)
  | noOffset (text : Text)
  /-- The time in UTC is in no year of the calendar. -/
  | beyondCalendar
  | tooManyDigits (limit : DigitLimit)

def CivilFault.message : CivilFault → Text
  | .year n => "year " ++ Text.ofNat n ++ " is out of range"
  | .month => "month must be in 1..12"
  | .day => "day is out of range for month"
  | .hour => "hour must be in 0..23"
  | .minute => "minute must be in 0..59"
  | .second => "second must be in 0..59"

/-- A duration by its days, seconds and microseconds other than zero, the last two not negative. -/
def durationLiteral (micros : Int) : Text :=
  let part (name : Text) (n : Int) : List Text := if n = 0 then [] else [name ++ "=" ++ Text.ofInt n]
  let parts := part "days" (micros.fdiv dayMicros)
    ++ part "seconds" ((micros.fmod dayMicros).fdiv 1000000)
    ++ part "microseconds" (micros.fmod 1000000)
  "datetime.timedelta(" ++ Text.join ", " (if parts.isEmpty then ["0"] else parts) ++ ")"

def TimestampError.message : TimestampError → Text
  | .unsupported v => "Unsupported timestamp: " ++ v.literal
  | .outOfRange t => "Timestamp out of range: " ++ t.quoted
  | .malformed iso => "Invalid isoformat string: " ++ iso.quoted
  | .badPart fault => fault.message
  | .badOffset micros =>
    "offset must be a timedelta strictly between -timedelta(hours=24) and timedelta(hours=24), not "
      ++ durationLiteral micros ++ "."
  | .noOffset t => "Timestamp has no offset: " ++ t.quoted
  | .beyondCalendar => "date value out of range"
  | .tooManyDigits limit => limit.message

/-- A trailing letter for UTC, in either case, stands for the offset zero. -/
def spellOffset (t : Text) : Text :=
  match t.reverse with
  | [] => t
  | c :: before =>
    if c = CodePoint.ofChar 'Z' ∨ c = CodePoint.ofChar 'z' then before.reverse ++ Text.ofString "+00:00" else t

/-- The instant of an ISO 8601 text. -/
def isoInstant (t : Text) : Except TimestampError Instant :=
  let iso := spellOffset t
  match readIso iso with
  | .error .malformed => .error (.malformed iso)
  | .error (.civil fault) => .error (.badPart fault)
  | .error (.offset micros) => .error (.badOffset micros)
  | .ok z =>
    if z.offset.isNone then .error (.noOffset t)
    else match z.instant? with
      | some i => .ok i
      | none => .error .beyondCalendar

/-- The instant of a timestamp text. -/
def textInstant (t : Text) : Except TimestampError Instant :=
  match long? t with
  | .error limit => .error (.tooManyDigits limit)
  | .ok (some n) =>
    match Instant.ofEpochMillis? n with
    | some i => .ok i
    | none => .error (.outOfRange t)
  | .ok none => isoInstant t

/-- The instant of a timestamp. -/
def instantOf : Json → Except TimestampError Instant
  | .int n => textInstant (Text.ofInt n)
  | .str t => textInstant t
  | v => .error (.unsupported v)

/-! ### Writing -/

/-- A number in at least so many digits. -/
def padded (width n : Nat) : Text :=
  let ds := Text.ofNat n
  List.replicate (width - ds.length) (CodePoint.ofChar '0') ++ ds

/-- The ISO 8601 text of a civil time in UTC, to the millisecond. The year is not padded. -/
def isoText (c : Civil) : Text :=
  Text.ofNat c.date.year ++ "-" ++ padded 2 c.date.month ++ "-" ++ padded 2 c.date.day ++ "T"
    ++ padded 2 c.hour ++ ":" ++ padded 2 c.minute ++ ":" ++ padded 2 c.second ++ "."
    ++ padded 3 (c.micro / 1000) ++ "Z"

inductive FormatError where
  /-- A time without an offset has no place on the scale of milliseconds. -/
  | noOffset
  | beyondCalendar
  | tooManyDigits (limit : DigitLimit)

/-- Writes a time in the form of a timestamp: an integer, a text that holds one, or ISO 8601. -/
def formatLike (z : ZonedTime) (like : Json) : Except FormatError Json :=
  let millis : Except FormatError Int := match z.epochMillis? with
    | some n => .ok n
    | none => .error .noOffset
  let iso : Except FormatError Json := match z.instant? with
    | some i => .ok (.str (isoText i.civil))
    | none => .error .beyondCalendar
  match like with
  | .int _ => millis.map .int
  | .str t =>
    match long? t with
    | .error limit => .error (.tooManyDigits limit)
    | .ok (some _) => millis.map fun n => .str (Text.ofInt n)
    | .ok none => iso
  | _ => iso

inductive ReformatError where
  | timestamp (e : TimestampError)
  | shift (e : ShiftError)
  | format (e : FormatError)

/-- Moves a timestamp by a number of milliseconds, keeping its form. -/
def shiftTimestamp (raw : Json) (millis : Int) : Except ReformatError Json := do
  let i ← (instantOf raw).mapError .timestamp
  let i ← (i.shift millis).mapError .shift
  (formatLike (.ofInstant i) raw).mapError .format

/-- The timestamps met when one is moved by each number in turn. -/
def shiftAll (raw : Json) : List Int → Except ReformatError (List Json)
  | [] => .ok []
  | millis :: more => do
    let raw ← shiftTimestamp raw millis
    return raw :: (← shiftAll raw more)

end ClusterHarness.Time
