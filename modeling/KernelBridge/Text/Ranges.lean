/-!
# Ranges of characters

A class of characters that is too large for a rule is a table of closed ranges of code
points, in ascending order.

## Main definitions

* `Text.inRanges` — a table holds a code point
-/

namespace KernelBridge.Text

/-- Whether one of the ranges holds the code point. -/
def inRanges (ranges : Array (Nat × Nat)) (code : Nat) : Bool :=
  ranges.any fun range => range.1 ≤ code && code ≤ range.2

end KernelBridge.Text
