/-!
# Lines of a text

A text cut at its line feeds. A carriage return before a line feed belongs to the end of the line,
and a text that ends with a line feed has no further line after it.
-/

namespace McpConsole.Text

/-- A line without a carriage return at its end. -/
def withoutReturn (line : List Char) : List Char :=
  if line.getLast? = some '\r' then line.dropLast else line

/-- The lines of a text after the open line `line`. -/
def linesFrom (line : List Char) : List Char → List (List Char)
  | [] => if line.isEmpty then [] else [line]
  | c :: cs =>
    if c = '\n' then withoutReturn line :: linesFrom [] cs else linesFrom (line ++ [c]) cs

/-- The lines of a text. -/
def lines (cs : List Char) : List (List Char) :=
  linesFrom [] cs

end McpConsole.Text
