import McpConsole.Text.Width

/-!
# Cutting a text to a width

A text that does not fit into a number of columns keeps as many leading characters as leave room
for an ellipsis.
-/

namespace McpConsole.Text

/-- The longest beginning of a text that takes at most `budget` columns. -/
def fitting : Nat → List Char → List Char
  | _, [] => []
  | budget, c :: cs =>
    if Width.ofChar c ≤ budget then c :: fitting (budget - Width.ofChar c) cs else []

/-- The text itself if it takes at most `width` columns, otherwise what fits before an ellipsis;
no column leaves no text. -/
def truncate (width : Nat) (cs : List Char) : List Char :=
  if width = 0 then []
  else if Width.sum cs ≤ width then cs
  else fitting (width - 1) cs ++ ['…']

/-- A string cut to at most `width` columns. -/
def truncated (width : Nat) (s : String) : String :=
  String.ofList (truncate width s.toList)

end McpConsole.Text
