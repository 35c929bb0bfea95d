import ClusterHarness.Text.Hex
import ClusterHarness.Text.Printable

/-!
Quoted texts, as messages show them: single quotes, or double quotes around a text that holds single
quotes only. The quote and the backslash take a backslash, and what cannot be printed is a number.
-/

namespace ClusterHarness

namespace CodePoint

/-- A code point between the given quotes. -/
def quoted (quote : CodePoint) (c : CodePoint) : Text :=
  if c = quote ∨ c = backslash then [backslash, c]
  else if c = ofChar '\t' then "\\t"
  else if c = ofChar '\n' then "\\n"
  else if c = ofChar '\r' then "\\r"
  else if c.isPrintable then [c]
  else if c.val < 0x100 then Text.ofString "\\x" ++ Text.hex 2 c.val
  else if c.val < 0x10000 then Text.ofString "\\u" ++ Text.hex 4 c.val
  else Text.ofString "\\U" ++ Text.hex 8 c.val

end CodePoint

namespace Text

def quoteMark (t : Text) : CodePoint :=
  if t.elem .singleQuote && !t.elem .doubleQuote then .doubleQuote else .singleQuote

def quoted (t : Text) : Text :=
  let quote := quoteMark t
  quote :: (t.flatMap (CodePoint.quoted quote) ++ [quote])

end Text

end ClusterHarness
