import ClusterHarness.Text.Basic

/-!
Hexadecimal digits: a number in a fixed number of lower case digits, and the value of four digits.
-/

namespace ClusterHarness

namespace CodePoint

def ofHexDigit (n : Fin 16) : CodePoint :=
  if h : n.val < 10 then ⟨48 + n.val, by omega⟩ else ⟨87 + n.val, by omega⟩

def hexValue? (c : CodePoint) : Option Nat :=
  if 48 ≤ c.val ∧ c.val ≤ 57 then some (c.val - 48)
  else if 97 ≤ c.val ∧ c.val ≤ 102 then some (c.val - 87)
  else if 65 ≤ c.val ∧ c.val ≤ 70 then some (c.val - 55)
  else none

end CodePoint

namespace Text

/-- The last `width` hexadecimal digits of a number. -/
def hex : Nat → Nat → Text
  | 0, _ => []
  | width + 1, n => hex width (n / 16) ++ [CodePoint.ofHexDigit ⟨n % 16, Nat.mod_lt _ (by decide)⟩]

def hexValue? (t : Text) : Option Nat :=
  t.foldlM (fun n c => c.hexValue?.map (16 * n + ·)) 0

end Text

end ClusterHarness
