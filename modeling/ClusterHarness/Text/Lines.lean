import ClusterHarness.Text.Basic

/-!
Line ends: a carriage return, alone or before a line feed, ends a line as a line feed does.
-/

namespace ClusterHarness.Text

def unifyLineEnds : Text → Text
  | [] => []
  | [c] => if c.val = 13 then [10] else [c]
  | c :: d :: t =>
    if c.val = 13 then
      if d.val = 10 then 10 :: unifyLineEnds t else 10 :: unifyLineEnds (d :: t)
    else c :: unifyLineEnds (d :: t)

end ClusterHarness.Text
