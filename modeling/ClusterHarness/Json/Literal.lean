import ClusterHarness.Json.Basic
import ClusterHarness.Number.Shortest
import ClusterHarness.Text.Quoted

/-!
Values as messages show them: quoted texts, `None`, `True` and `False`, and the containers in brackets
and braces. A text alone is shown as it is when it is part of a sentence.
-/

namespace ClusterHarness.Json

mutual

def literal : Json → Text
  | .null => "None"
  | .bool true => "True"
  | .bool false => "False"
  | .int n => Text.ofInt n
  | .float x => x.text
  | .str t => t.quoted
  | .arr items => CodePoint.ofChar '[' :: (literalItems items ++ [CodePoint.ofChar ']'])
  | .obj fields => CodePoint.ofChar '\x7b' :: (literalFields fields ++ [CodePoint.ofChar '\x7d'])

def literalItems : List Json → Text
  | [] => []
  | [v] => literal v
  | v :: items => literal v ++ (Text.ofString ", " ++ literalItems items)

def literalFields : List (Text × Json) → Text
  | [] => []
  | [(k, v)] => k.quoted ++ (Text.ofString ": " ++ literal v)
  | (k, v) :: fields =>
    k.quoted ++ (Text.ofString ": " ++ (literal v ++ (Text.ofString ", " ++ literalFields fields)))

end

/-- The text of a value inside a sentence. -/
def plain : Json → Text
  | .str t => t
  | v => v.literal

end ClusterHarness.Json
