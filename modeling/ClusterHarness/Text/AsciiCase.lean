import ClusterHarness.Text.Basic

/-!
Letter case of the ASCII letters, in which units of time and the words of a flag are written.
-/

namespace ClusterHarness

namespace CodePoint

def toAsciiLower (c : CodePoint) : CodePoint :=
  if h : 65 ≤ c.val ∧ c.val ≤ 90 then ⟨c.val + 32, by omega⟩ else c

def toAsciiUpper (c : CodePoint) : CodePoint :=
  if h : 97 ≤ c.val ∧ c.val ≤ 122 then ⟨c.val - 32, by omega⟩ else c

end CodePoint

namespace Text

def toLower (t : Text) : Text := t.map CodePoint.toAsciiLower

def toUpper (t : Text) : Text := t.map CodePoint.toAsciiUpper

end Text

end ClusterHarness
