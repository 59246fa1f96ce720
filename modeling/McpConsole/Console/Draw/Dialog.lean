import McpConsole.Console.Arrange
import McpConsole.Screen.Canvas
import McpConsole.Text.Lines

/-!
# Drawing the dialog

Everything behind the dialog is dimmed. The dialog has the colour of its severity, its message and
its buttons.
-/

namespace McpConsole.Console

open McpConsole.Screen

/-- The lines of a message. -/
def messageLines (theme : Theme) (message : String) : List Line :=
  (Text.lines message.toList).map fun line => [⟨String.ofList line, theme.primaryText⟩]

/-- Dims all of the canvas. -/
def drawBackdrop (theme : Theme) (c : Canvas) : Canvas :=
  c.style c.area { theme.modalBackdrop with dim := true }

/-- Draws a button of the dialog. -/
def drawDialogButton (a : App) (area : Rect) (place : Nat) (button : Button) (c : Canvas) :
    Canvas :=
  let focused := a.dialog.focused == some place
  let style :=
    if button.isPrimary then a.theme.primaryButton a.dialog.severity focused
    else a.theme.secondaryButton focused
  c.button area button.label style (a.theme.borderStyle focused)

/-- Draws the dialog in an area. -/
def drawDialog (a : App) (area : Rect) (c : Canvas) : Canvas :=
  let dialog := a.dialog
  let theme := a.theme
  let edge := (theme.severityText dialog.severity).strong
  let c := (c.clear area).panel area theme.panel .rounded edge
    (dialog.title.map fun title => ⟨title, edge⟩)
  let areas := dialogAreas area dialog.message.isSome
  let c :=
    match dialog.message with
    | some message => c.wrapped areas.message false (messageLines theme message)
    | none => c
  let buttons := (areas.buttonAreas dialog.buttons.length).zip dialog.buttons
  (buttons.zipIdx).foldl (fun c ((area, button), place) => drawDialogButton a area place button c) c

/-- The keys of the dialog. -/
def dialogHints : List (String × String) :=
  [("Tab/←/→", "Focus"), ("Enter", "Choose"), ("y", "Confirm"), ("n/Esc", "Cancel")]

end McpConsole.Console
