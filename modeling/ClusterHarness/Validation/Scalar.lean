import ClusterHarness.Json.Reader
import ClusterHarness.Files.Path
import ClusterHarness.Number.Numeral
import ClusterHarness.Text.AsciiCase
import ClusterHarness.Text.Blank
import ClusterHarness.Validation.Issue

/-!
Checks of single values. They are lenient: a number or a truth value may be given as a text or as a
number of another kind, if nothing is lost.
-/

namespace ClusterHarness.Validation

open Validated

def text : Json → Validated Text
  | .str t => .ok t
  | _ => refuse .notText

/-- A value or null. -/
def optional {α : Type} (check : Json → Validated α) : Json → Validated (Option α)
  | .null => .ok none
  | v => (check v).map some

def path : Json → Validated Path
  | .str t => .ok (.ofText t)
  | _ => refuse .notPath

/-- A text that is read, and not only kept, has no surrogates. -/
def readable {α : Type} (t : Text) (reading : Validated α) : Validated α :=
  if t.any CodePoint.isSurrogate then refuse .notUnicode else reading

/-- The one word that a field may hold. -/
def word (w : Text) : Json → Validated Unit
  | .str t => readable t <| if t = w then .ok () else refuse (.otherWord w)
  | _ => refuse (.otherWord w)

def listOf {α : Type} (source : Source) (check : Json → Validated α) : Json → Validated (List α)
  | .arr items => each check 0 items
  | _ => refuse (.notList source)

/-- Members of a repeated name are all checked, and are one in the end. -/
def objectOf {α : Type} (source : Source) (check : Json → Validated α) : Json → Validated (Fields α)
  | .obj fields => (eachMember check fields).map Fields.ofList
  | _ => refuse (.notObject source)

/-- A floating number stands for an integer between the ends of the 64-bit range, and for neither of
these. -/
def isInsideLong (n : Int) : Bool := isLong (n - 1) && isLong (n + 1)

/-! ### Truth values -/

def trueWords : List Text := ["1", "t", "true", "y", "yes", "on"]

def falseWords : List Text := ["0", "f", "false", "n", "no", "off"]

def booleanOfInt (n : Int) : Validated Bool :=
  if n = 0 then .ok false else if n = 1 then .ok true else refuse .unreadableBoolean

def boolean : Json → Validated Bool
  | .bool b => .ok b
  | .str t =>
    readable t <|
      if trueWords.elem t.toLower then .ok true
      else if falseWords.elem t.toLower then .ok false
      else refuse .unreadableBoolean
  | .int n => if isLong n then booleanOfInt n else refuse .notBoolean
  | .float x =>
    match x.toInt? with
    | some n => if isInsideLong n then booleanOfInt n else refuse .notBoolean
    | none => refuse .notBoolean
  | _ => refuse .notBoolean

/-! ### Integers -/

def underscore : CodePoint := CodePoint.ofChar '_'

/-- The text without underscores, if none is at an end or beside another. -/
def dropUnderscores? (t : Text) : Option Text :=
  let groups := t.splitOn [underscore]
  if groups.all (!·.isEmpty) then some groups.flatten else none

/-- What a text says when an integer is read from it. -/
inductive IntegerReading where
  | value (n : Int)
  | oversized
  | unreadable
  deriving DecidableEq, Repr

def minus : CodePoint := CodePoint.ofChar '-'

def point : CodePoint := CodePoint.ofChar '.'

/-- A minus sign or none, and a zero alone or digits that start with no zero. Too many digits are too
many whatever follows them. -/
def plainInteger (t : Text) : IntegerReading :=
  let (negative, t) : Bool × Text := match t with
    | [] => (false, [])
    | c :: rest => if c = minus then (true, rest) else (false, c :: rest)
  match Json.wholeDigits? t with
  | none => .unreadable
  | some (ds, rest) =>
    if Json.maxDigits < ds.length then .oversized
    else if !rest.isEmpty then .unreadable
    else
      let n : Int := Json.digitsValue ds
      .value (if negative then -n else n)

/-- What follows leading zeros, and underscores among them: digits, or a minus sign with digits of its
own. At a point or at the end, `last` stays before it. -/
def afterZeros? (last : CodePoint) : Text → Option Text
  | [] => some [last]
  | c :: t =>
    if c.val = 48 ∨ c = underscore then afterZeros? c t
    else if c.isAsciiDigit ∨ c = minus then some (c :: t)
    else if c = point then some (last :: c :: t)
    else none

/-- The text without leading zeros. -/
def dropZeros? : Text → Option Text
  | [] => none
  | c :: t =>
    if c.val = 48 then afterZeros? c t
    else if c.isAsciiDigit ∨ c = minus then some (c :: t)
    else none

/-- The text without a fraction of zeros, at least one. -/
def dropZeroFraction (t : Text) : Text :=
  let fraction := (t.dropWhile (· ≠ point)).drop 1
  if !fraction.isEmpty && fraction.all (·.val = 48) then t.takeWhile (· ≠ point) else t

/-- The text without a plus sign, which no other sign may follow. -/
def dropPlus? : Text → Option Text
  | [] => some []
  | c :: t => if c = CodePoint.ofChar '+' then (if t.head? = some minus then none else some t) else some (c :: t)

/-- The text freed of white space, a plus sign, leading zeros, a fraction of zeros and underscores. -/
def loosened? (t : Text) : Option Text := do
  let t ← dropPlus? (t.trimBy CodePoint.isNarrowBlank)
  let t := dropZeroFraction (← dropZeros? t)
  return (dropUnderscores? t).getD t

/-- A text is read as it stands, or else loosened. -/
def integerText (t : Text) : IntegerReading :=
  match plainInteger t with
  | .unreadable => ((loosened? t).map plainInteger).getD .unreadable
  | reading => reading

def integer : Json → Validated Int
  | .int n => .ok n
  | .bool b => .ok (if b then 1 else 0)
  | .float x =>
    if !x.isFinite then refuse .infiniteInteger
    else match x.toInt? with
      | none => refuse .fractionalInteger
      | some n => if isInsideLong n then .ok n else refuse .oversizedInteger
  | .str t =>
    readable t <| match integerText t with
      | .value n => .ok n
      | .oversized => refuse .oversizedInteger
      | .unreadable => refuse .unreadableInteger
  | _ => refuse .notInteger

/-! ### Floating numbers -/

/-- The words that are numbers, in any letter case. -/
def numberWords : List (Text × (Bool → Binary64)) :=
  [("inf", .infinite), ("infinity", .infinite), ("nan", fun _ => .nan)]

/-- A sign and a word, or digits with a point anywhere and an exponent. -/
def numberText? (t : Text) : Option Binary64 :=
  let (negative, t) := Json.signOf t
  match numberWords.find? fun w => w.1 = t.toLower with
  | some w => some (w.2 negative)
  | none =>
    let whole := t.takeWhile CodePoint.isAsciiDigit
    let rest := t.dropWhile CodePoint.isAsciiDigit
    let (fraction, rest) := match rest with
      | c :: r =>
        if c = CodePoint.ofChar '.' then
          (r.takeWhile CodePoint.isAsciiDigit, r.dropWhile CodePoint.isAsciiDigit)
        else ([], rest)
      | [] => ([], [])
    let (exponent, rest) := Json.exponentDigits rest
    if rest ≠ [] ∨ (whole = [] ∧ fraction = []) then none
    else
      let power : Int := match exponent with
        | none => 0
        | some (below, es) => if below then -(Json.digitsValue es : Int) else Json.digitsValue es
      some (.ofDecimal negative (Json.digitsValue (whole ++ fraction)) (power - fraction.length))

/-- An integer as a floating number. One of a text that is beyond the range is infinite. -/
def numberOfInt (source : Source) (n : Int) : Validated Binary64 :=
  match Binary64.ofInt? n, source with
  | some x, _ => .ok x
  | none, .text => .ok (.infinite (n < 0))
  | none, .value => refuse .notNumber

def number (source : Source) : Json → Validated Binary64
  | .float x => .ok x
  | .int n => numberOfInt source n
  | .bool b => .ok (.ofRatio false (if b then 1 else 0) 1)
  | .str t =>
    readable t <| match numberText? (t.trimBy CodePoint.isNarrowBlank) with
      | some x => .ok x
      | none =>
        match (dropUnderscores? t).bind numberText? with
        | some x => .ok x
        | none => refuse .unreadableNumber
  | _ => refuse .notNumber

end ClusterHarness.Validation
