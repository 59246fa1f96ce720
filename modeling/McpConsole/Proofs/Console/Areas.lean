import McpConsole.Console.Arrange
import McpConsole.Proofs.Screen.Layout

/-!
# Where the list is

The areas of the console on a screen in numbers, as long as there is room for all of them: those of
the screen (`screenAreas_eq`), and those of the list on it (`listAreas_eq`). From 11 lines on the list
has at least one row. The identifiers are drawn in the first columns of the rows (`idArea_eq`), if
there is room for all columns of the table.
-/

namespace McpConsole.Console

open McpConsole.Screen

theorem screenAreas_eq {width height : Nat} (h : 3 ≤ height) :
    screenAreas ⟨0, 0, width, height⟩ =
      ⟨⟨0, 0, width, height - 2⟩, ⟨0, height - 2, width, 1⟩, ⟨0, height - 1, width, 1⟩⟩ := by
  have hdivide : Share.divide height 0 [.atLeast 1, .exactly 1, .exactly 1] =
      [(0, height - 2), (height - 2, 1), (height - 1, 1)] := by
    simp [Share.divide, Share.place, Share.floor, Share.weight, Share.grown_zero,
      Share.grown_self, h]
    omega
  simp [screenAreas, Rect.rows, hdivide, part]

/-- The lines that the buttons of the list take. -/
def buttonLines (isAdmin : Bool) : Nat :=
  if isAdmin then 3 else 0

theorem buttonLines_le (isAdmin : Bool) : buttonLines isAdmin ≤ 3 := by
  cases isAdmin <;> decide

theorem listAreas_eq {width height : Nat} (isAdmin : Bool) (hw : 2 ≤ width) (hh : 9 ≤ height) :
    listAreas ⟨0, 0, width, height⟩ isAdmin =
      ⟨⟨1, 1, width - 2, 1⟩, ⟨1, 2, width - 2, height - 4 - buttonLines isAdmin⟩,
        ⟨1, height - 2 - buttonLines isAdmin, width - 2, 1⟩,
        ⟨1, height - 1 - buttonLines isAdmin, width - 2, buttonLines isAdmin⟩⟩ := by
  have hlines := buttonLines_le isAdmin
  have hinside : Rect.inside ⟨0, 0, width, height⟩ = ⟨1, 1, width - 2, height - 2⟩ := by
    simp [Rect.inside, Rect.right, Rect.bottom]
    omega
  have hdivide : Share.divide (height - 2) 0
      [.exactly 1, .atLeast 2, .exactly 1, .exactly (buttonLines isAdmin)] =
      [(0, 1), (1, height - 4 - buttonLines isAdmin), (height - 3 - buttonLines isAdmin, 1),
        (height - 2 - buttonLines isAdmin, buttonLines isAdmin)] := by
    have hroom : 1 + (2 + (1 + buttonLines isAdmin)) ≤ height - 2 := by omega
    simp [Share.divide, Share.place, Share.floor, Share.weight, Share.grown_zero,
      Share.grown_self, hroom]
    omega
  have hshare : (if isAdmin = true then 3 else 0) = buttonLines isAdmin := rfl
  simp only [listAreas, hinside, Rect.rows, hshare, hdivide, part, List.map_cons, List.map_nil,
    List.getD_cons_zero, List.getD_cons_succ, ListAreas.mk.injEq, Rect.mk.injEq, true_and, and_true]
  omega

/-- Where the rows of the list are on a screen. -/
def listRows (width height : Nat) (isAdmin : Bool) : Rect :=
  ⟨1, 3, width - 2, height - 7 - buttonLines isAdmin⟩

theorem rows_listAreas {width height : Nat} (isAdmin : Bool) (hw : 2 ≤ width) (hh : 11 ≤ height) :
    (listAreas (screenAreas ⟨0, 0, width, height⟩).content isAdmin).rows =
      listRows width height isAdmin := by
  rw [screenAreas_eq (by omega), listAreas_eq isAdmin hw (by omega)]
  simp only [ListAreas.rows, Rect.dropRows, listRows, Rect.mk.injEq, true_and]
  omega

/-- The columns of the rows of the list. -/
def tableColumns (rows : Rect) : List Rect :=
  rows.columns 1 tableShares

/-- Where the identifiers are drawn. -/
def idArea (rows : Rect) : Rect :=
  part (tableColumns rows) 0

theorem needed_tableShares_le {rows : Rect} (h : 75 ≤ rows.width) :
    Share.needed 1 tableShares ≤ rows.width := h

theorem idArea_eq {rows : Rect} (h : 75 ≤ rows.width) :
    idArea rows = ⟨rows.x, rows.y, idWidth, rows.height⟩ := by
  rw [idArea, tableColumns, Rect.columns_of_needed_le (needed_tableShares_le h)]
  simp [tableShares, Share.place, Share.floor, Share.weight, Share.grown_zero, part]

end McpConsole.Console
