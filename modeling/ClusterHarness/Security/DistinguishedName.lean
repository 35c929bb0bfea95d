import ClusterHarness.Asn1.Value
import ClusterHarness.Text.Hex

/-!
Names of subjects and issuers: sets of attributes, the least specific first. A name is written as RFC
4514 text: the most specific part first, well-known attributes by their short names and others by their
numbers, and the characters that would be read otherwise escaped.
-/

namespace ClusterHarness

open Asn1

/-- An attribute of a name. -/
structure Attribute where
  type : ObjectId
  value : Element
  deriving DecidableEq, Repr

def Attribute.ofElement? (rules : Rules) (e : Element) : Option Attribute :=
  Members.all? rules (do return ⟨← Members.objectId, ← Members.next⟩) e

abbrev DistinguishedName := List (List Attribute)

/-- Why a name has no text. -/
inductive NameError where
  /-- A kind of value that is no kind of string. -/
  | unknownKind
  | longTag
  /-- Bits in an attribute other than the unique identifier. -/
  | bits
  | notUnicode
  | emptyPart
  | repeated
  deriving DecidableEq, Repr

def NameError.message : NameError → Text
  | .unknownKind => "unknown kind of value"
  | .longTag => "Long-form tags are not supported in NameAttribute values"
  | .bits => "bits in a name"
  | .notUnicode => Text.ofString "error parsing asn1 value: ParseError \x7b kind: InvalidValue \x7d"
  | .emptyPart => "a relative distinguished name cannot be empty"
  | .repeated => "duplicate attributes are not allowed"

namespace DistinguishedName

/-- Whether some bytes come before others, or are the same. -/
def inOrder : List Bytes → Bool
  | a :: b :: rest => !decide (b < a) && inOrder (b :: rest)
  | _ => true

/-- The members of a set; under the distinguished rules they are in the order of their bytes. -/
def set? (rules : Rules) (e : Element) : Option (List Element) := do
  let es ← e.items? rules .set
  guard (rules = .basic ∨ inOrder (es.map Element.encoded) = true)
  return es

def ofElement? (rules : Rules) (e : Element) : Option DistinguishedName := do
  (← e.items? rules .sequence).mapM fun set => do (← set? rules set).mapM (Attribute.ofElement? rules)

/-! ### Values -/

def printableText : Tag := .universal 19
def universalText : Tag := .universal 28
def basicText : Tag := .universal 30

/-- Units of a fixed number of bytes, the high byte first. -/
def units (width : Nat) : Nat → Bytes → List Nat
  | 0, _ => []
  | count + 1, bs => ByteOrder.bigValue (bs.take width) :: units width count (bs.drop width)

def isHigh (n : Nat) : Bool := 0xD800 ≤ n && n ≤ 0xDBFF

def isLow (n : Nat) : Bool := 0xDC00 ≤ n && n ≤ 0xDFFF

/-- The code points of 16-bit units; a surrogate has to have a partner. -/
def ofUnits16? : List Nat → Option Text
  | [] => some []
  | [n] => if isHigh n || isLow n then none else some [Utf8.codePoint n]
  | n :: m :: ns =>
    if isHigh n && isLow m then
      (ofUnits16? ns).map (Utf8.codePoint (0x10000 + (n - 0xD800) * 0x400 + (m - 0xDC00)) :: ·)
    else if isHigh n || isLow n then none
    else (ofUnits16? (m :: ns)).map (Utf8.codePoint n :: ·)

/-- The text of big-endian 16-bit units. -/
def basicText? (bs : Bytes) : Option Text := do
  guard (bs.length % 2 = 0)
  ofUnits16? (units 2 (bs.length / 2) bs)

/-- The text of big-endian 32-bit units. -/
def universalText? (bs : Bytes) : Option Text := do
  guard (bs.length % 4 = 0)
  (units 4 (bs.length / 4) bs).mapM fun n =>
    if n < 0x110000 ∧ !isHigh n ∧ !isLow n then some (Utf8.codePoint n) else none

def isPrintable (b : UInt8) : Bool :=
  let c := Utf8.codePoint b.toNat
  c.isAsciiUpper || c.isAsciiLower || c.isAsciiDigit || (Text.ofString " '()+,-./:=?").elem c

/-- Whether a value of a restricted kind of string keeps to its kind. -/
def isSound (e : Element) : Bool :=
  if e.tag = printableText then e.content.all isPrintable
  else if e.tag = basicText then (basicText? e.content).isSome
  else if e.tag = universalText then (universalText? e.content).isSome
  else true

def sound (n : DistinguishedName) : Bool := n.all fun set => set.all fun a => isSound a.value

/-! ### Text -/

def shortNames : List (ObjectId × Text) :=
  [([2, 5, 4, 3], "CN"), ([2, 5, 4, 7], "L"), ([2, 5, 4, 8], "ST"), ([2, 5, 4, 10], "O"),
    ([2, 5, 4, 11], "OU"), ([2, 5, 4, 6], "C"), ([2, 5, 4, 9], "STREET"),
    ([0, 9, 2342, 19200300, 100, 1, 25], "DC"), ([0, 9, 2342, 19200300, 100, 1, 1], "UID")]

def typeText (type : ObjectId) : Text :=
  match shortNames.find? fun n => n.1 = type with
  | some n => n.2
  | none => Text.join "." (type.map Text.ofNat)

def uniqueIdentifier : ObjectId := [2, 5, 4, 45]

/-- The numbers of the kinds of value that a name may have: bits, bytes, strings and times. -/
def kinds : List Nat := [3, 4, 12, 18, 19, 20, 22, 23, 24, 26, 28, 30]

/-- The value of an attribute. -/
inductive Value where
  | bits (bs : Bytes)
  | text (t : Text)
  deriving DecidableEq, Repr

def value (a : Attribute) : Except NameError Value := do
  let e := a.value
  if 31 ≤ e.tag.number then throw .longTag
  if e.tag.lead ≠ 0 ∨ !kinds.elem e.tag.number then throw .unknownKind
  if e.tag = .bitString then
    if a.type = uniqueIdentifier then return .bits e.content else throw .bits
  let text : Option Text :=
    if e.tag = basicText then basicText? e.content
    else if e.tag = universalText then universalText? e.content
    else (Utf8.decode e.content).toOption
  match text with
  | some t => return .text t
  | none => throw .notUnicode

/-- The values of a part of a name, which are at least one and differ from one another. -/
def part (set : List Attribute) : Except NameError (List (ObjectId × Value)) := do
  let vs ← set.mapM fun a => return (a.type, ← value a)
  if vs.isEmpty then throw .emptyPart
  if vs.Nodup then return vs else throw .repeated

def special : Text := ",+<>;\\\""

def escapeInner (c : CodePoint) : Text :=
  if special.elem c then [CodePoint.backslash, c] else if c.val = 0 then "\\00" else [c]

def isSpace (c : CodePoint) : Bool := c == CodePoint.ofChar ' '

/-- A number sign or a space at the head, and a space at the end, are escaped too. -/
def escape (t : Text) : Text :=
  match t.flatMap escapeInner with
  | [] => []
  | [c] => if c = CodePoint.ofChar '#' ∨ isSpace c then [CodePoint.backslash, c] else [c]
  | c :: rest =>
    let led := if c = CodePoint.ofChar '#' ∨ isSpace c then CodePoint.backslash :: c :: rest else c :: rest
    match led.getLast? with
    | some last => if isSpace last then led.dropLast ++ [CodePoint.backslash, last] else led
    | none => led

def valueText : Value → Text
  | .bits [] => []
  | .bits bs => CodePoint.ofChar '#' :: bs.flatMap fun b => Text.hex 2 b.toNat
  | .text t => escape t

def partText (vs : List (ObjectId × Value)) : Text :=
  Text.join "+" (vs.map fun v => typeText v.1 ++ CodePoint.ofChar '=' :: valueText v.2)

def text (n : DistinguishedName) : Except NameError Text := do
  let parts ← n.mapM part
  return Text.join "," (parts.reverse.map partText)

end DistinguishedName

end ClusterHarness
