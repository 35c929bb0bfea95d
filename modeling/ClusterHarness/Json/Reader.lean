import ClusterHarness.Json.Basic
import ClusterHarness.Text.Hex

/-!
Reading JSON text. Beyond the standard, `NaN` and the infinities are numbers, and a surrogate escape
without a partner may stand. Reading stops at the first fault, and a fault is known by what is left of
the text there, from which its line and column follow.

Containers with something in them may be nested up to the limit of the dialect, and an integer may
have 4300 digits.
-/

namespace ClusterHarness.Json

inductive Problem where
  | expectingValue
  | expectingName
  | expectingColon
  | expectingComma
  | unterminatedString
  | controlCharacter
  | badEscape
  | badUnicodeEscape
  | loneSurrogate
  | extraData
  | byteOrderMark
  deriving DecidableEq, Repr

def Problem.message : Problem → Text
  | .expectingValue => "Expecting value"
  | .expectingName => "Expecting property name enclosed in double quotes"
  | .expectingColon => "Expecting ':' delimiter"
  | .expectingComma => "Expecting ',' delimiter"
  | .unterminatedString => "Unterminated string starting at"
  | .controlCharacter => "Invalid control character at"
  | .badEscape => "Invalid \\escape"
  | .badUnicodeEscape => "Invalid \\uXXXX escape"
  | .loneSurrogate => "Lone surrogate"
  | .extraData => "Extra data"
  | .byteOrderMark => "Unexpected UTF-8 BOM (decode using utf-8-sig)"

/-- Why reading stops; `rest` is what is left of the text at the fault. -/
inductive Fault where
  | malformed (problem : Problem) (rest : Text)
  | tooManyDigits (count : Nat)
  | tooDeep
  deriving DecidableEq, Repr

structure Dialect where
  maxDepth : Nat
  loneSurrogates : Bool
  /-- Whether the members of a repeated name all stay. -/
  repeats : Bool

/-- Documents of the cluster and of the fixture files. They are read by recursion, for which the interpreter
allows 1000 nested calls; the limit leaves ten of them to the callers of the reader. -/
def Dialect.document : Dialect := ⟨990, true, false⟩

/-- Texts that a settings object is read from. -/
def Dialect.settings : Dialect := ⟨200, false, true⟩

/-- The members of an object as they are kept. -/
def Dialect.members (dialect : Dialect) (read : List (Text × Json)) : Fields Json :=
  if dialect.repeats then read else Fields.ofList read

def maxDigits : Nat := 4300

def isSpace (c : CodePoint) : Bool := c.val = 32 || c.val = 9 || c.val = 10 || c.val = 13

def skipSpace (s : Text) : Text := s.dropWhile isSpace

/-! ### Strings -/

/-- The code point of a short escape. -/
def shortEscape? (c : CodePoint) : Option CodePoint :=
  if c = .doubleQuote ∨ c = .backslash ∨ c = CodePoint.ofChar '/' then some c
  else if c = CodePoint.ofChar 'b' then some 8
  else if c = CodePoint.ofChar 'f' then some 12
  else if c = CodePoint.ofChar 'n' then some 10
  else if c = CodePoint.ofChar 'r' then some 13
  else if c = CodePoint.ofChar 't' then some 9
  else none

/-- A code point of a string, and whether a numeric escape stood for it. -/
structure StringUnit where
  point : CodePoint
  escaped : Bool
  deriving DecidableEq, Repr

/-- Reads the units up to the closing quote; `start` is the text from the opening quote on. -/
def stringUnits (start : Text) : Text → Except Fault (List StringUnit × Text)
  | [] => .error (.malformed .unterminatedString start)
  | c :: s =>
    if c = .doubleQuote then .ok ([], s)
    else if c = .backslash then
      match s with
      | [] => .error (.malformed .unterminatedString start)
      | e :: s' =>
        if e = CodePoint.ofChar 'u' then
          match s' with
          | h₁ :: h₂ :: h₃ :: h₄ :: s'' =>
            match Text.hexValue? [h₁, h₂, h₃, h₄] with
            | some n =>
              if s''.isEmpty then .error (.malformed .badUnicodeEscape s)
              else (stringUnits start s'').map fun (us, r) => (⟨Fin.ofNat _ n, true⟩ :: us, r)
            | none => .error (.malformed .badUnicodeEscape s)
          | _ => .error (.malformed .badUnicodeEscape s)
        else
          match shortEscape? e with
          | some p => (stringUnits start s').map fun (us, r) => (⟨p, false⟩ :: us, r)
          | none => .error (.malformed .badEscape (c :: s))
    else if c.val < 32 then .error (.malformed .controlCharacter (c :: s))
    else (stringUnits start s).map fun (us, r) => (⟨c, false⟩ :: us, r)

def isHighSurrogate (c : CodePoint) : Bool := 0xD800 ≤ c.val && c.val ≤ 0xDBFF

def isLowSurrogate (c : CodePoint) : Bool := 0xDC00 ≤ c.val && c.val ≤ 0xDFFF

def joinSurrogates (high low : CodePoint) : CodePoint :=
  Fin.ofNat _ (0x10000 + (high.val - 0xD800) * 0x400 + (low.val - 0xDC00))

/-- The text of the units: a numeric escape of a high surrogate and one of a low surrogate right after
it are one code point. -/
def joinUnits : List StringUnit → Text
  | [] => []
  | [u] => [u.point]
  | u :: v :: us =>
    if u.escaped ∧ v.escaped ∧ isHighSurrogate u.point ∧ isLowSurrogate v.point then
      joinSurrogates u.point v.point :: joinUnits us
    else u.point :: joinUnits (v :: us)

/-- Reads a string after its opening quote. -/
def readString (dialect : Dialect) (start s : Text) : Except Fault (Text × Text) := do
  let (units, rest) ← stringUnits start s
  let t := joinUnits units
  if !dialect.loneSurrogates && t.any CodePoint.isSurrogate then
    throw (.malformed .loneSurrogate start)
  return (t, rest)

/-! ### Numbers -/

def digitsValue (ds : Text) : Nat := ds.foldl (fun n d => 10 * n + (d.val - 48)) 0

/-- The parts of a number: a missing fraction or exponent is none. -/
structure Numeral where
  negative : Bool
  whole : Text
  fraction : Option Text
  exponent : Option (Bool × Text)
  deriving DecidableEq, Repr

/-- Whole digits: a zero alone, or digits that start with no zero. -/
def wholeDigits? : Text → Option (Text × Text)
  | [] => none
  | c :: s =>
    if c.val = 48 then some ([c], s)
    else if c.isAsciiDigit then
      some (c :: s.takeWhile CodePoint.isAsciiDigit, s.dropWhile CodePoint.isAsciiDigit)
    else none

/-- A point and at least one digit; otherwise nothing is read. -/
def fractionDigits (s : Text) : Option Text × Text :=
  match s with
  | [] => (none, s)
  | c :: t =>
    let ds := t.takeWhile CodePoint.isAsciiDigit
    if c = CodePoint.ofChar '.' ∧ ds ≠ [] then (some ds, t.dropWhile CodePoint.isAsciiDigit) else (none, s)

/-- An optional sign at the head of a text. -/
def signOf : Text → Bool × Text
  | [] => (false, [])
  | c :: s =>
    if c = CodePoint.ofChar '-' then (true, s)
    else if c = CodePoint.ofChar '+' then (false, s)
    else (false, c :: s)

/-- An exponent mark, an optional sign and at least one digit; otherwise nothing is read. -/
def exponentDigits (s : Text) : Option (Bool × Text) × Text :=
  match s with
  | [] => (none, s)
  | c :: t =>
    let (negative, t) := signOf t
    let ds := t.takeWhile CodePoint.isAsciiDigit
    if (c = CodePoint.ofChar 'e' ∨ c = CodePoint.ofChar 'E') ∧ ds ≠ [] then
      (some (negative, ds), t.dropWhile CodePoint.isAsciiDigit)
    else (none, s)

def numeral? (s : Text) : Option (Numeral × Text) := do
  let (negative, t) : Bool × Text := match s with
    | [] => (false, [])
    | c :: t => if c = CodePoint.ofChar '-' then (true, t) else (false, c :: t)
  let (whole, t) ← wholeDigits? t
  let (fraction, t) := fractionDigits t
  let (exponent, t) := exponentDigits t
  return (⟨negative, whole, fraction, exponent⟩, t)

/-- The value of a number: an integer if it has neither fraction nor exponent. -/
def Numeral.value (n : Numeral) : Except Fault Json :=
  match n.fraction, n.exponent with
  | none, none =>
    if maxDigits < n.whole.length then .error (.tooManyDigits n.whole.length)
    else
      let k := (digitsValue n.whole : Int)
      .ok (.int (if n.negative then -k else k))
  | fraction, exponent =>
    let ds := fraction.getD []
    let power : Int := match exponent with
      | none => 0
      | some (true, es) => -(digitsValue es : Int)
      | some (false, es) => digitsValue es
    .ok (.float (.ofDecimal n.negative (digitsValue (n.whole ++ ds)) (power - ds.length)))

/-! ### Values -/

/-- The words that are values. -/
def words : List (Text × Json) :=
  [("null", .null), ("true", .bool true), ("false", .bool false), ("NaN", .float .nan),
    ("Infinity", .float (.infinite false)), ("-Infinity", .float (.infinite true))]

def word? (s : Text) : Option (Json × Text) :=
  words.findSome? fun (w, v) => (Text.after? s w).map (v, ·)

def readScalar (s : Text) : Except Fault (Json × Text) :=
  match word? s with
  | some r => .ok r
  | none =>
    match numeral? s with
    | some (n, rest) => n.value.map (·, rest)
    | none => .error (.malformed .expectingValue s)

/-- Reads items separated by commas up to the closing bracket. Each item takes a code point, so a
budget above the length of the text is not used up. -/
def readItems (item : Text → Except Fault (Json × Text)) : Nat → Text → Except Fault (List Json × Text)
  | 0, s => .error (.malformed .expectingValue s)
  | budget + 1, s => do
    let (v, s) ← item s
    match skipSpace s with
    | [] => throw (.malformed .expectingComma [])
    | c :: s =>
      if c = CodePoint.ofChar ']' then return ([v], s)
      else if c = CodePoint.ofChar ',' then
        let (vs, s) ← readItems item budget (skipSpace s)
        return (v :: vs, s)
      else throw (.malformed .expectingComma (c :: s))

/-- Reads a name, a colon and a value. -/
def readMember (dialect : Dialect) (item : Text → Except Fault (Json × Text)) (s : Text) :
    Except Fault ((Text × Json) × Text) :=
  match s with
  | [] => .error (.malformed .expectingName [])
  | c :: s =>
    if c = .doubleQuote then do
      let (key, s) ← readString dialect (c :: s) s
      match skipSpace s with
      | [] => throw (.malformed .expectingColon [])
      | c :: s =>
        if c = CodePoint.ofChar ':' then
          let (v, s) ← item (skipSpace s)
          return ((key, v), s)
        else throw (.malformed .expectingColon (c :: s))
    else .error (.malformed .expectingName (c :: s))

/-- Reads members separated by commas up to the closing brace. -/
def readMembers (dialect : Dialect) (item : Text → Except Fault (Json × Text)) :
    Nat → Text → Except Fault (List (Text × Json) × Text)
  | 0, s => .error (.malformed .expectingName s)
  | budget + 1, s => do
    let (m, s) ← readMember dialect item s
    match skipSpace s with
    | [] => throw (.malformed .expectingComma [])
    | c :: s =>
      if c = CodePoint.ofChar '\x7d' then return ([m], s)
      else if c = CodePoint.ofChar ',' then
        let (ms, s) ← readMembers dialect item budget (skipSpace s)
        return (m :: ms, s)
      else throw (.malformed .expectingComma (c :: s))

/-- Reads the value at the head of a text, with full containers nested at most `depth` deep. -/
def readValue (dialect : Dialect) (budget : Nat) : Nat → Text → Except Fault (Json × Text)
  | _, [] => .error (.malformed .expectingValue [])
  | depth, c :: s =>
    if c = .doubleQuote then (readString dialect (c :: s) s).map fun (t, r) => (.str t, r)
    else if c = CodePoint.ofChar '[' then
      match skipSpace s with
      | [] => .error (.malformed .expectingValue [])
      | d :: r =>
        if d = CodePoint.ofChar ']' then .ok (.arr [], r)
        else match depth with
          | 0 => .error .tooDeep
          | depth + 1 =>
            (readItems (readValue dialect budget depth) budget (d :: r)).map fun (vs, r) => (.arr vs, r)
    else if c = CodePoint.ofChar '\x7b' then
      match skipSpace s with
      | [] => .error (.malformed .expectingName [])
      | d :: r =>
        if d = CodePoint.ofChar '\x7d' then .ok (.obj [], r)
        else match depth with
          | 0 => .error .tooDeep
          | depth + 1 =>
            (readMembers dialect (readValue dialect budget depth) budget (d :: r)).map
              fun (ms, r) => (.obj (dialect.members ms), r)
    else readScalar (c :: s)

def byteOrderMark : CodePoint := 0xFEFF

/-- Reads a text that holds one value and white space around it. -/
def readWhole (dialect : Dialect) (s : Text) : Except Fault Json :=
  if s.head? = some byteOrderMark then .error (.malformed .byteOrderMark s)
  else do
    let (v, rest) ← readValue dialect (s.length + 1) dialect.maxDepth (skipSpace s)
    let rest := skipSpace rest
    if rest.isEmpty then return v else throw (.malformed .extraData rest)

/-- A fault with its place in the text. -/
inductive ReadError where
  | malformed (problem : Problem) (line column position : Nat)
  | tooManyDigits (count : Nat)
  | tooDeep
  deriving DecidableEq, Repr

/-- Lines and columns count from one, positions from zero. -/
def Fault.locate (s : Text) : Fault → ReadError
  | .malformed problem rest =>
    let position := s.length - rest.length
    let before := s.take position
    let column := (before.reverse.takeWhile (·.val ≠ 10)).length + 1
    .malformed problem (before.countP (·.val = 10) + 1) column position
  | .tooManyDigits count => .tooManyDigits count
  | .tooDeep => .tooDeep

/-- The refusal of an integer with too many digits. -/
def tooManyDigitsMessage (count : Nat) : Text :=
  "Exceeds the limit (4300 digits) for integer string conversion: value has " ++ Text.ofNat count
    ++ " digits; use sys.set_int_max_str_digits() to increase the limit"

def ReadError.message : ReadError → Text
  | .malformed problem line column position =>
    problem.message ++ ": line " ++ Text.ofNat line ++ " column " ++ Text.ofNat column
      ++ " (char " ++ Text.ofNat position ++ ")"
  | .tooManyDigits count => tooManyDigitsMessage count
  | .tooDeep => "maximum nesting depth exceeded"

def read (dialect : Dialect) (s : Text) : Except ReadError Json :=
  (readWhole dialect s).mapError (Fault.locate s)

end ClusterHarness.Json
