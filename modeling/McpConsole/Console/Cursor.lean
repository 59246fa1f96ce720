import McpConsole.Screen.Rect

/-!
# The cursor in the list

The selected row of the list, the first row that is shown, and where the rows were drawn last, by
which a click finds its row.
-/

namespace McpConsole.Console

open McpConsole.Screen

/-- The cursor in the list. -/
structure Cursor where
  /-- The selected row. -/
  selected : Option Nat
  /-- The first row that is shown. -/
  offset : Nat
  /-- Where the rows were drawn. -/
  rows : Rect
  /-- The first column and the width of the identifiers. -/
  idColumn : Nat × Nat
  deriving DecidableEq, Repr, Inhabited

namespace Cursor

/-- The cursor brought into a list of a length: a row is selected unless there is none. -/
def normalize (c : Cursor) (length : Nat) : Cursor :=
  { c with
    selected := if length = 0 then none else some (min (c.selected.getD 0) (length - 1))
    offset := if length ≤ c.offset then length - 1 else c.offset }

/-- Selects the row above. -/
def previous (c : Cursor) (length : Nat) : Cursor :=
  { c with
    selected := if length = 0 then none else some ((c.selected.map fun i => i - 1).getD 0) }

/-- Selects the row below. -/
def next (c : Cursor) (length : Nat) : Cursor :=
  { c with
    selected :=
      if length = 0 then none
      else some ((c.selected.map fun i => min (i + 1) (length - 1)).getD 0) }

/-- The first row that is to be shown so that a row is seen among `height` rows, as near as
possible to the one that is shown first. -/
def scrolled (offset row height : Nat) : Nat :=
  if row < offset then row
  else if offset + height ≤ row then row + 1 - height
  else offset

/-- Scrolls as little as possible so that the selected row is among `height` rows. -/
def ensureVisible (c : Cursor) (height : Nat) : Cursor :=
  match c.selected with
  | some row => if height = 0 then c else { c with offset := scrolled c.offset row height }
  | none => c

/-- The row of a list of a length that was drawn on a row of the screen. -/
def rowAt? (c : Cursor) (row length : Nat) : Option Nat :=
  if c.rows.y ≤ row ∧ row < c.rows.bottom then
    let index := c.offset + (row - c.rows.y)
    if index < length then some index else none
  else none

/-- Whether a column of the screen belongs to the identifiers. -/
def isInIdColumn (c : Cursor) (column : Nat) : Bool :=
  c.idColumn.1 ≤ column && column < c.idColumn.1 + c.idColumn.2

end Cursor

end McpConsole.Console
