import ClusterHarness.Text.Hex

/-!
UTF-8. Bytes are read one code point at a time; a defect takes up the longest run of bytes that some
code point could start with, or one byte. Strict reading stops at the first defect, lenient reading
puts a replacement character in its place.

A surrogate has no bytes, so not every text can be written. In the names of files, a surrogate of one
range stands for a single byte that is no UTF-8.
-/

namespace ClusterHarness

abbrev Bytes := List UInt8

namespace Utf8

inductive Defect where
  | badStart
  | badContinuation
  | cutShort
  deriving DecidableEq, Repr

def Defect.reason : Defect → Text
  | .badStart => "invalid start byte"
  | .badContinuation => "invalid continuation byte"
  | .cutShort => "unexpected end of data"

/-- What stands at the head of some bytes, and how many bytes it takes. -/
inductive Head where
  | scalar (c : CodePoint) (width : Nat)
  | defect (d : Defect) (width : Nat)
  deriving DecidableEq, Repr

def isContinuation (b : UInt8) : Bool := 0x80 ≤ b && b ≤ 0xBF

def codePoint (n : Nat) : CodePoint := Fin.ofNat 0x110000 n

/-- Whether `b` may follow the lead byte `a`: overlong forms, surrogates and numbers above the last
code point are ruled out by the second byte. -/
def maySecond (a b : UInt8) : Bool :=
  isContinuation b &&
    !(a == 0xE0 && b < 0xA0) && !(a == 0xED && b ≥ 0xA0) &&
    !(a == 0xF0 && b < 0x90) && !(a == 0xF4 && b ≥ 0x90)

/-- Reads the code point that starts with `a`. -/
def head (a : UInt8) (rest : Bytes) : Head :=
  let x := a.toNat
  if x < 0x80 then .scalar (codePoint x) 1
  else if x < 0xC2 ∨ 0xF5 ≤ x then .defect .badStart 1
  else match rest with
    | [] => .defect .cutShort 1
    | b :: rest =>
      if !maySecond a b then .defect .badContinuation 1
      else if x < 0xE0 then .scalar (codePoint ((x - 0xC0) * 0x40 + (b.toNat - 0x80))) 2
      else match rest with
        | [] => .defect .cutShort 2
        | c :: rest =>
          if !isContinuation c then .defect .badContinuation 2
          else
            let low := (b.toNat - 0x80) * 0x40 + (c.toNat - 0x80)
            if x < 0xF0 then .scalar (codePoint ((x - 0xE0) * 0x1000 + low)) 3
            else match rest with
              | [] => .defect .cutShort 3
              | d :: _ =>
                if !isContinuation d then .defect .badContinuation 3
                else .scalar (codePoint ((x - 0xF0) * 0x40000 + low * 0x40 + (d.toNat - 0x80))) 4

/-- A defect, where it starts, and the bytes that it takes. -/
structure Error where
  defect : Defect
  start : Nat
  bytes : Bytes
  deriving DecidableEq, Repr

def Error.message (e : Error) : Text :=
  let place : Text := match e.bytes with
    | [b] => "byte 0x" ++ Text.hex 2 b.toNat ++ " in position " ++ Text.ofNat e.start
    | bs => "bytes in position " ++ Text.ofNat e.start ++ "-" ++ Text.ofNat (e.start + bs.length - 1)
  "'utf-8' codec can't decode " ++ place ++ ": " ++ e.defect.reason

/-- Reads the bytes after leaving out `skip` of them; `start` is the position of the first. -/
def decodeFrom : Nat → Nat → Bytes → Except Error Text
  | _, _, [] => .ok []
  | skip + 1, start, _ :: bs => decodeFrom skip (start + 1) bs
  | 0, start, b :: bs =>
    match head b bs with
    | .scalar c width => (decodeFrom (width - 1) (start + 1) bs).map (c :: ·)
    | .defect d width => .error ⟨d, start, (b :: bs).take width⟩

def decode (bs : Bytes) : Except Error Text := decodeFrom 0 0 bs

def replacement : CodePoint := codePoint 0xFFFD

def decodeLenientFrom : Nat → Bytes → Text
  | _, [] => []
  | skip + 1, _ :: bs => decodeLenientFrom skip bs
  | 0, b :: bs =>
    match head b bs with
    | .scalar c width => c :: decodeLenientFrom (width - 1) bs
    | .defect _ width => replacement :: decodeLenientFrom (width - 1) bs

def decodeLenient (bs : Bytes) : Text := decodeLenientFrom 0 bs

/-- The bytes of one code point by its number, which for a surrogate are no UTF-8. -/
def encodeOne (c : CodePoint) : Bytes :=
  let n := c.val
  let low (k : Nat) : UInt8 := UInt8.ofNat (0x80 + k % 0x40)
  if n < 0x80 then [UInt8.ofNat n]
  else if n < 0x800 then [UInt8.ofNat (0xC0 + n / 0x40), low n]
  else if n < 0x10000 then [UInt8.ofNat (0xE0 + n / 0x1000), low (n / 0x40), low n]
  else [UInt8.ofNat (0xF0 + n / 0x40000), low (n / 0x1000), low (n / 0x40), low n]

def encode (t : Text) : Bytes := t.flatMap encodeOne

/-- A surrogate that cannot be written, its position, and the number of surrogates from there on. -/
structure Unwritable where
  point : CodePoint
  start : Nat
  count : Nat
  deriving DecidableEq, Repr

def Unwritable.message (e : Unwritable) : Text :=
  let place : Text :=
    if e.count = 1 then
      Text.ofString "character '\\u" ++ Text.hex 4 e.point.val ++ Text.ofString "' in position "
        ++ Text.ofNat e.start
    else "characters in position " ++ Text.ofNat e.start ++ "-" ++ Text.ofNat (e.start + e.count - 1)
  "'utf-8' codec can't encode " ++ place ++ ": surrogates not allowed"

/-- Writes a text whose first code point has the given position; `stray` gives the byte of a surrogate
that stands for one. -/
def writeFrom (stray : CodePoint → Option UInt8) (start : Nat) : Text → Except Unwritable Bytes
  | [] => .ok []
  | c :: t =>
    if c.isSurrogate then
      match stray c with
      | some b => (writeFrom stray (start + 1) t).map (b :: ·)
      | none => .error ⟨c, start, (t.takeWhile CodePoint.isSurrogate).length + 1⟩
    else (writeFrom stray (start + 1) t).map (encodeOne c ++ ·)

/-- The bytes of a text without surrogates. -/
def write (t : Text) : Except Unwritable Bytes := writeFrom (fun _ => none) 0 t

/-- The byte that a surrogate stands for in the name of a file. -/
def strayByte (c : CodePoint) : Option UInt8 :=
  if 0xDC80 ≤ c.val ∧ c.val ≤ 0xDCFF then some (UInt8.ofNat (c.val - 0xDC00)) else none

/-- The bytes of a text in the file system. -/
def writeName (t : Text) : Except Unwritable Bytes := writeFrom strayByte 0 t

end Utf8

end ClusterHarness
