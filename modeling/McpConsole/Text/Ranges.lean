/-!
# Ranges of code points

Character properties are given as increasing lists of closed ranges of code points. A character
has the property when one of the ranges holds its code point.
-/

namespace McpConsole.Text

/-- Whether one of the closed ranges holds the code point `n`. -/
def inRanges (ranges : List (Nat × Nat)) (n : Nat) : Bool :=
  ranges.any fun range => range.1 ≤ n && n ≤ range.2

end McpConsole.Text
