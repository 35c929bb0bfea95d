import ClusterHarness.Json.Basic
import ClusterHarness.Number.Shortest
import ClusterHarness.Text.Hex

/-!
Writing JSON text: one line of printable ASCII, a comma and a space between items, a colon and a space
after a name. What is not printable ASCII is a numeric escape of its UTF-16 units.
-/

namespace ClusterHarness.Json

def escapeUnit (n : Nat) : Text := Text.ofString "\\u" ++ Text.hex 4 n

def escape (c : CodePoint) : Text :=
  if c = .doubleQuote ∨ c = .backslash then [.backslash, c]
  else if c.val = 10 then "\\n"
  else if c.val = 13 then "\\r"
  else if c.val = 9 then "\\t"
  else if c.val = 12 then "\\f"
  else if c.val = 8 then "\\b"
  else if 32 ≤ c.val ∧ c.val ≤ 126 then [c]
  else if c.val < 0x10000 then escapeUnit c.val
  else
    let n := c.val - 0x10000
    escapeUnit (0xD800 + n / 0x400) ++ escapeUnit (0xDC00 + n % 0x400)

def renderString (t : Text) : Text := .doubleQuote :: (t.flatMap escape ++ [.doubleQuote])

def renderNumber (x : Binary64) : Text := x.render "Infinity" "NaN"

mutual

def render : Json → Text
  | .null => "null"
  | .bool true => "true"
  | .bool false => "false"
  | .int n => Text.ofInt n
  | .float x => renderNumber x
  | .str t => renderString t
  | .arr items => CodePoint.ofChar '[' :: (renderItems items ++ [CodePoint.ofChar ']'])
  | .obj fields => CodePoint.ofChar '\x7b' :: (renderFields fields ++ [CodePoint.ofChar '\x7d'])

def renderItems : List Json → Text
  | [] => []
  | [v] => render v
  | v :: items => render v ++ (Text.ofString ", " ++ renderItems items)

def renderFields : List (Text × Json) → Text
  | [] => []
  | [(k, v)] => renderString k ++ (Text.ofString ": " ++ render v)
  | (k, v) :: fields =>
    renderString k ++ (Text.ofString ": " ++ (render v ++ (Text.ofString ", " ++ renderFields fields)))

end

/-- Adds a member before the first one with a greater name. -/
def insertSorted (field : Text × Json) : List (Text × Json) → List (Text × Json)
  | [] => [field]
  | f :: fields => if field.1 < f.1 then field :: f :: fields else f :: insertSorted field fields

mutual

/-- The same document with the members of every object in the order of their names. -/
def sortKeys : Json → Json
  | .arr items => .arr (sortKeysItems items)
  | .obj fields => .obj (sortKeysFields fields)
  | v => v

def sortKeysItems : List Json → List Json
  | [] => []
  | v :: items => sortKeys v :: sortKeysItems items

def sortKeysFields : List (Text × Json) → List (Text × Json)
  | [] => []
  | (k, v) :: fields => insertSorted (k, sortKeys v) (sortKeysFields fields)

end

end ClusterHarness.Json
