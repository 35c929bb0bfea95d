import ClusterHarness.Text.Basic

/-!
White space: the code points that trimming removes. The wide set is the one that text trimming and
time values use; the narrow set, which leaves out the four information separators, is the one that
numbers in settings are trimmed by.
-/

namespace ClusterHarness.CodePoint

def narrowBlankRanges : List (Nat × Nat) :=
  [(0x9, 0xD), (0x20, 0x20), (0x85, 0x85), (0xA0, 0xA0), (0x1680, 0x1680), (0x2000, 0x200A),
    (0x2028, 0x2029), (0x202F, 0x202F), (0x205F, 0x205F), (0x3000, 0x3000)]

def isNarrowBlank (c : CodePoint) : Bool := c.inRanges narrowBlankRanges

def isBlank (c : CodePoint) : Bool := c.isNarrowBlank || c.inRanges [(0x1C, 0x1F)]

end ClusterHarness.CodePoint

namespace ClusterHarness.Text

def trim (t : Text) : Text := t.trimBy CodePoint.isBlank

def isBlank (t : Text) : Bool := t.all CodePoint.isBlank

end ClusterHarness.Text
