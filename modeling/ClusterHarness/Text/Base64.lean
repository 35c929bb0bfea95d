import ClusterHarness.Text.Utf8

/-!
Base64 with padding, in the standard alphabet. Only whole groups of four are read, with padding at the
end only. Strict reading allows no bits that are left over; loose reading drops them and skips blanks.
-/

namespace ClusterHarness.Base64

def digit (n : Nat) : CodePoint :=
  if n < 26 then Utf8.codePoint (65 + n)
  else if n < 52 then Utf8.codePoint (71 + n)
  else if n < 62 then Utf8.codePoint (n - 4)
  else if n = 62 then CodePoint.ofChar '+'
  else CodePoint.ofChar '/'

def digitValue? (c : CodePoint) : Option Nat :=
  if c.isAsciiUpper then some (c.val - 65)
  else if c.isAsciiLower then some (c.val - 71)
  else if c.isAsciiDigit then some (c.val + 4)
  else if c = CodePoint.ofChar '+' then some 62
  else if c = CodePoint.ofChar '/' then some 63
  else none

def pad : CodePoint := CodePoint.ofChar '='

def encode : Bytes → Text
  | a :: b :: c :: bs =>
    let n := a.toNat * 0x10000 + b.toNat * 0x100 + c.toNat
    digit (n / 0x40000) :: digit (n / 0x1000 % 64) :: digit (n / 64 % 64) :: digit (n % 64) :: encode bs
  | [a, b] =>
    let n := a.toNat * 0x100 + b.toNat
    [digit (n / 0x400), digit (n / 16 % 64), digit (n % 16 * 4), pad]
  | [a] => [digit (a.toNat / 4), digit (a.toNat % 4 * 16), pad, pad]
  | [] => []

/-- Reads groups of four digits; unless told to be exact, bits left over may have any value. -/
def readGroups (exact : Bool) : Text → Option Bytes
  | [] => some []
  | c₁ :: c₂ :: c₃ :: c₄ :: t => do
    let a ← digitValue? c₁
    let b ← digitValue? c₂
    if c₃ = pad ∧ c₄ = pad ∧ t = [] then
      guard (!exact ∨ b % 16 = 0)
      return [UInt8.ofNat (a * 4 + b / 16)]
    let c ← digitValue? c₃
    if c₄ = pad ∧ t = [] then
      guard (!exact ∨ c % 4 = 0)
      return [UInt8.ofNat (a * 4 + b / 16), UInt8.ofNat (b % 16 * 16 + c / 4)]
    let d ← digitValue? c₄
    let more ← readGroups exact t
    return UInt8.ofNat (a * 4 + b / 16) :: UInt8.ofNat (b % 16 * 16 + c / 4)
      :: UInt8.ofNat (c % 4 * 64 + d) :: more
  | _ => none

def decode? (t : Text) : Option Bytes := readGroups true t

/-- A blank between digits. -/
def isGap (c : CodePoint) : Bool := c.val == 9 || c.val == 10 || c.val == 13 || c.val == 32

/-- Reads up to a hyphen, over blanks, and drops bits that are left over. -/
def decodeLoose? (t : Text) : Option Bytes :=
  readGroups false ((t.takeWhile (· != CodePoint.ofChar '-')).filter (!isGap ·))

end ClusterHarness.Base64
