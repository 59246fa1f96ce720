import McpConsole.Console.App
import McpConsole.Screen.Canvas

/-!
# Drawing a form

A line for each field, with its label in a column of its own, and a line for what is wrong or under
way. The terminal's cursor is put into the line of text that has the focus.
-/

namespace McpConsole.Console

open McpConsole.Screen

/-- The width of the labels. -/
def labelWidth : Nat := 14

/-- A text filled up with blanks on the right. -/
def padded (text : String) (width : Nat) : String :=
  text ++ String.ofList (List.replicate (width - text.length) ' ')

namespace Form

/-- The value of a field as it is drawn. -/
def drawnValue (f : Form) (field : Field) : String :=
  if field.isChoice then "< " ++ f.shown field ++ " >" else f.shown field

/-- The line of a field. -/
def fieldLine (f : Form) (theme : Theme) (field : Field) : Line :=
  let focused := field == f.focus
  [⟨padded (field.label ++ ":") labelWidth,
      if focused then theme.strongAccent else theme.secondaryText⟩,
    ⟨f.drawnValue field, theme.input true focused⟩]

/-- The line for what is under way or wrong. -/
def remarkLines (f : Form) (theme : Theme) : List Line :=
  if f.isSubmitting then [[⟨"Saving…", theme.mutedText⟩]]
  else
    match f.error? with
    | some error => [[⟨error, theme.severityText .error⟩]]
    | none => []

/-- The lines of a form. -/
def textLines (f : Form) (theme : Theme) : List Line :=
  Field.all.map (f.fieldLine theme) ++ [] :: f.remarkLines theme

/-- Where the terminal's cursor is, if it is in the area. -/
def cursor? (f : Form) (area : Rect) : Option (Nat × Nat) :=
  match f.input? f.focus with
  | none => none
  | some input =>
    let column := area.x + labelWidth + input.column
    let row := area.y + f.focus.line
    if area.contains column row then some (column, row) else none

end Form

/-- The keys of a form. -/
def formHints : List (String × String) :=
  [("Tab/↑/↓", "Field"), ("←/→", "Option"), ("Ctrl+S", "Save"), ("Esc", "Back")]

end McpConsole.Console
