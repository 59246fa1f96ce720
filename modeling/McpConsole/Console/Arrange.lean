import McpConsole.Console.View
import McpConsole.Screen.Layout

/-!
# Where everything is

The areas of the console on a screen of a size, and what the console learns from them when it is
drawn: `State.arrange` brings the cursor of the list into view and notes where the rows, the
buttons of the list and the buttons of the dialog are, so that clicks find them.
-/

namespace McpConsole.Console

open McpConsole.Screen

/-- The part of a division at a place. -/
def part (parts : List Rect) (place : Nat) : Rect :=
  parts.getD place default

/-! ### The screen -/

/-- The screen from the top: the view, the notice and the key hints. -/
structure ScreenAreas where
  content : Rect
  notice : Rect
  hints : Rect

/-- The areas of a screen. -/
def screenAreas (screen : Rect) : ScreenAreas :=
  let parts := screen.rows [.atLeast 1, .exactly 1, .exactly 1]
  ⟨part parts 0, part parts 1, part parts 2⟩

/-! ### The list -/

/-- The list from the top: its state, the table, the address of the selected server and the
buttons. -/
structure ListAreas where
  status : Rect
  table : Rect
  selection : Rect
  buttons : Rect

/-- The areas of the list. Only administrators see buttons. -/
def listAreas (view : Rect) (isAdmin : Bool) : ListAreas :=
  let parts := view.inside.rows
    [.exactly 1, .atLeast 2, .exactly 1, .exactly (if isAdmin then 3 else 0)]
  ⟨part parts 0, part parts 1, part parts 2, part parts 3⟩

/-- The rows of the table, below its headings. -/
def ListAreas.rows (a : ListAreas) : Rect :=
  a.table.dropRows 1

/-- The width of the identifiers. -/
def idWidth : Nat := 14

/-- What the columns of the table ask for. -/
def tableShares : List Share :=
  [.exactly idWidth, .exactly 16, .fill 1, .exactly 9, .exactly 12, .fill 2, .exactly 10,
   .exactly 7]

/-- The buttons below the list: one on the left and two on the right. -/
structure ListButtons where
  add : Rect
  edit : Rect
  delete : Rect

/-- The areas of the buttons below the list. -/
def ListAreas.buttonAreas (a : ListAreas) : ListButtons :=
  let parts := a.buttons.columns 0
    [.exactly 24, .atLeast 0, .exactly 10, .exactly 2, .exactly 12]
  ⟨part parts 0, part parts 2, part parts 4⟩

/-- The controls of the list that can be clicked. The buttons for a server are there only if one
is selected. -/
def ListAreas.controls (a : ListAreas) (isAdmin hasSelection : Bool) : List (Control × Rect) :=
  let buttons := a.buttonAreas
  (.rows, a.rows) ::
    if isAdmin then
      (.add, buttons.add) ::
        if hasSelection then [(.edit, buttons.edit), (.delete, buttons.delete)] else []
    else []

/-! ### The dialog -/

/-- The dialog from the top: its message and its buttons. -/
structure DialogAreas where
  message : Rect
  buttons : Rect

/-- The area of the dialog in the middle of a screen. -/
def dialogArea (screen : Rect) : Rect :=
  screen.centred 45 35 (60, 10) (90, 12)

/-- The areas of a dialog. -/
def dialogAreas (dialog : Rect) (hasMessage : Bool) : DialogAreas :=
  let parts := dialog.inside.rows
    [.atLeast (if hasMessage then 1 else 0), .exactly 1, .exactly 3]
  ⟨part parts 0, part parts 2⟩

/-- The width of a button of the dialog. -/
def buttonWidth : Nat := 12

/-- The columns between two buttons of the dialog. -/
def buttonGap : Nat := 2

/-- The areas of a number of buttons, side by side as far as there is room. -/
def DialogAreas.buttonAreas (a : DialogAreas) (count : Nat) : List Rect :=
  (List.range count).map fun place =>
    (Rect.within (a.buttons.x + place * (buttonWidth + buttonGap)) a.buttons.y buttonWidth
      a.buttons.height).intersect a.buttons

/-! ### What is learnt -/

/-- The cursor once the list was drawn: it is in the list, in view, and knows where the rows
are. -/
def Cursor.arrange (c : Cursor) (rows : Rect) (length : Nat) : Cursor :=
  { (c.normalize length).ensureVisible rows.height with rows, idColumn := (rows.x, idWidth) }

namespace State

/-- The console once the list was drawn in an area. -/
def arrangeList (s : State) (view : Rect) : State :=
  let isAdmin := s.app.session.isAdmin
  let areas := listAreas view isAdmin
  let cursor := s.app.cursor.arrange areas.rows s.app.servers.length
  let app := { s.app with cursor }
  { app, view := { s.view with content := .list (areas.controls isAdmin app.selected?.isSome) } }

/-- The console once its view was drawn in an area. -/
def arrangeContent (s : State) (view : Rect) : State :=
  match s.view.content with
  | .list _ => s.arrangeList view
  | _ => s

/-- The console once its dialog was drawn in an area. -/
def arrangeDialog (s : State) (area : Rect) : State :=
  let dialog := s.app.dialog
  let areas := dialogAreas area dialog.message.isSome
  let buttons := areas.buttonAreas dialog.buttons.length
  { s with view := { s.view with dialog := s.view.dialog.map fun _ => buttons } }

/-- The console once it was drawn on a screen. Without a complete session it learns nothing. -/
def arrange (s : State) (screen : Rect) : State :=
  if s.app.session.isComplete then
    (s.arrangeContent (screenAreas screen).content).arrangeDialog (dialogArea screen)
  else s

end State

end McpConsole.Console
