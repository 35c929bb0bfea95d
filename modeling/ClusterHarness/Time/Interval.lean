import ClusterHarness.Number.Shortest
import ClusterHarness.Text.AsciiCase
import ClusterHarness.Text.Blank
import ClusterHarness.Time.Timestamp

/-!
Time values such as `60s` and `500ms`: an amount in decimal digits and a unit. Amounts of seconds and
longer units are whole seconds; amounts of shorter units are rounded fractions.
-/

namespace ClusterHarness.Time

/-- A number of seconds, whole or floating. -/
inductive Seconds where
  | whole (n : Int)
  | fraction (x : Binary64)
  deriving DecidableEq, Repr

def Seconds.isZero : Seconds → Bool
  | .whole n => n == 0
  | .fraction x => x.isZero

/-- The number as a floating one, none if it is beyond the largest. -/
def Seconds.toBinary64? : Seconds → Option Binary64
  | .whole n => Binary64.ofInt? n
  | .fraction x => some x

/-- A unit of time: so many seconds, or the tenth part of a second to the given power. -/
inductive TimeUnit where
  | seconds (count : Nat)
  | decimal (power : Nat)
  deriving DecidableEq, Repr

def timeUnits : List (Text × TimeUnit) :=
  [("nanos", .decimal 9), ("micros", .decimal 6), ("ms", .decimal 3), ("s", .seconds 1),
    ("m", .seconds 60), ("h", .seconds 3600), ("d", .seconds 86400)]

inductive IntervalError where
  | malformed (setting : Text) (value : Option Text)
  | negative (setting value : Text)
  | tooManyDigits (limit : DigitLimit)
  /-- The amount is beyond the largest floating number. -/
  | tooLarge
  deriving DecidableEq, Repr

def IntervalError.message : IntervalError → Text
  | .malformed setting value =>
    "failed to parse setting [" ++ setting ++ "] with value [" ++ value.getD "None" ++ "] as a time value"
  | .negative setting value =>
    "failed to parse setting [" ++ setting ++ "] with value [" ++ value ++ "]: negative time value"
  | .tooManyDigits limit => limit.message
  | .tooLarge => "int too large to convert to float"

/-- The amount and the unit of a time value. -/
def timeValue? (t : Text) : Option (Numeral × TimeUnit) := do
  let t := t.trim.toLower
  let (negative, t) := match t with
    | [] => (false, [])
    | c :: s => if c = CodePoint.ofChar '-' then (true, s) else (false, c :: s)
  let (digits, t) := Numeral.leadingDigits t
  guard (digits ≠ [])
  let unit ← Fields.get? (t.dropWhile CodePoint.isBlank) timeUnits
  return (⟨negative, digits⟩, unit)

/-- An amount of a unit in seconds. -/
def inSeconds (amount : Int) : TimeUnit → Option Seconds
  | .seconds count => some (.whole (amount * count))
  | .decimal power =>
    (Binary64.ofInt? amount).map fun x => .fraction (x.mul (.ofRatio false 1 (Nat.pow 10 power)))

/-- Reads the time value of a setting. -/
def parseInterval (setting : Text) (value : Option Text) : Except IntervalError Seconds :=
  match value.bind fun t => (timeValue? t).map (t, ·) with
  | none => .error (.malformed setting value)
  | some (t, amount, unit) =>
    if amount.tooLong then .error (.tooManyDigits ⟨amount.digits.length⟩)
    else if amount.value < 0 then .error (.negative setting t)
    else match inSeconds amount.value unit with
      | some seconds => .ok seconds
      | none => .error .tooLarge

end ClusterHarness.Time
