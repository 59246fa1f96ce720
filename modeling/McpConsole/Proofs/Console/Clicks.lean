import McpConsole.Proofs.Console.Course
import McpConsole.Proofs.Console.Rows

/-!
# What is clicked is what is drawn

Drawing and clicking find the rows of the list apart from each other. Drawing counts the lines down
from the first row that is shown; a click counts them back, from where drawing has noted the rows
(`State.arrange_list`). `State.CellAgrees` says that they meet: a click on a cell of the rows is about
the server whose row is drawn there. `clicked_isDrawn` says so for all cells of the rows, on every
screen with room for all columns of the table, wherever the cursor was and however far the list was
scrolled.

A server that is clicked is looked up by its identifier again before it is shown, so that it is the
clicked one only as long as no two servers share one (`find_of_nodup`).
-/

namespace McpConsole

/-- A server is found by its identifier if no other one has the same. -/
theorem Server.find_of_nodup {servers : List Server} {server : Server}
    (h : (servers.map Server.id).Nodup) (hs : server ∈ servers) :
    Server.find servers server.id = server := by
  have hfind : (servers.find? fun s => s.id == server.id) = some server := by
    induction servers with
    | nil => cases hs
    | cons first servers ih =>
      rw [List.map_cons, List.nodup_cons] at h
      rcases List.mem_cons.1 hs with rfl | hlater
      · exact List.find?_cons_of_pos (beq_self_eq_true _)
      · have hne : first.id ≠ server.id := fun hid =>
          h.1 (hid ▸ List.mem_map_of_mem hlater)
        rw [List.find?_cons_of_neg (by simpa using hne)]
        exact ih h.2 hlater
  rw [find, hfind, Option.getD_some]

namespace Console

open McpConsole.Screen
open McpConsole.Screen.Canvas

/-! ### The cursor -/

/-- The cursor is in a list of a length, and its row is among the rows that are shown. -/
structure Cursor.IsInView (c : Cursor) (height length : Nat) : Prop where
  selected : c.selected = none ↔ length = 0
  isInList : ∀ row, c.selected = some row → row < length
  isShown : ∀ row, c.selected = some row → c.offset ≤ row ∧ row < c.offset + height

theorem Cursor.arrange_isInView (c : Cursor) {rows : Rect} (length : Nat) (h : 0 < rows.height) :
    (c.arrange rows length).IsInView rows.height length := by
  have hheight : rows.height ≠ 0 := by omega
  by_cases hlength : length = 0
  · have hnone : (c.arrange rows length).selected = none := by
      simp [arrange, normalize, ensureVisible, hlength]
    exact ⟨iff_of_true hnone hlength, by simp [hnone], by simp [hnone]⟩
  · have hsome : (c.arrange rows length).selected =
        some (min (c.selected.getD 0) (length - 1)) := by
      simp [arrange, normalize, ensureVisible, hlength, hheight]
    have hoffset : (c.arrange rows length).offset = scrolled (c.normalize length).offset
        (min (c.selected.getD 0) (length - 1)) rows.height := by
      simp [arrange, normalize, ensureVisible, hlength, hheight]
    refine ⟨by simp [hsome, hlength], ?_, ?_⟩
    · intro row hrow
      rw [hsome, Option.some.injEq] at hrow
      omega
    · intro row hrow
      rw [hsome, Option.some.injEq] at hrow
      rw [hoffset, hrow, scrolled]
      split
      · omega
      · split <;> omega

namespace State

variable {s : State} {width height : Nat}

/-- Drawing the list brings the cursor into view and notes where the rows are. -/
theorem arrange_list (hcomplete : s.app.session.isComplete = true)
    (hlist : s.view.content.route = .list) (hdialog : s.view.dialog = none) (hw : 2 ≤ width)
    (hh : 11 ≤ height) :
    let rows := listRows width height s.app.session.isAdmin
    ∃ others, s.arrange ⟨0, 0, width, height⟩ =
      ⟨{ s.app with cursor := s.app.cursor.arrange rows s.app.servers.length },
        ⟨.list ((.rows, rows) :: others), none⟩⟩ := by
  have hrows := rows_listAreas s.app.session.isAdmin hw hh
  have hcontent (view : Rect) : s.arrangeContent view = s.arrangeList view := by
    unfold arrangeContent
    cases hview : s.view.content with
    | list => rfl
    | detail | create =>
      rw [hview] at hlist
      cases hlist
  simp only [arrange, hcomplete, if_true, hcontent, arrangeList, arrangeDialog, hdialog,
    Option.map_none, ListAreas.controls, hrows]
  exact ⟨_, rfl⟩

/-! ### Clicks -/

/-- A left click. -/
def click (s : State) (clipboard : Clipboard) (column row : Nat) : State × List Issued :=
  s.respond clipboard (.mouse ⟨.leftDown, column, row⟩)

/-- The console with another row selected. -/
def select (s : State) (index : Nat) : State :=
  { s with app := { s.app with cursor := { s.app.cursor with selected := some index } } }

/-- The console where a server is shown alone. -/
def showing (s : State) (server : Server) : State where
  app := { s.app with detail := some (.viewing server), route := .detail }
  view := { s.view with content := .detail }

theorem process_openSelected {server : Server} (hselected : s.app.selected? = some server)
    (hfind : Server.find s.app.servers server.id = server) (clipboard : Clipboard) :
    (s.openSelected false).1.process clipboard (s.openSelected false).2 =
      (s.showing server, []) := by
  simp only [openSelected, hselected, after, App.openDetail, hfind, Bool.false_and]
  rw [process_navigate _ _ rfl]
  rfl

/-- Where the rows were drawn, and that nothing is in front of them. -/
structure Knows (s : State) (rows : Rect) : Prop where
  complete : s.app.session.isComplete = true
  view : ∃ others, s.view = ⟨.list ((.rows, rows) :: others), none⟩
  place : s.app.cursor.rows = rows
  idColumn : s.app.cursor.idColumn = (rows.x, idWidth)

variable {rows : Rect} {column line : Nat} {clipboard : Clipboard}

theorem Knows.click (h : s.Knows rows) (hcolumn : Columns rows column)
    (hline : line < rows.height) :
    s.click clipboard column (rows.y + line) =
      (s.clickRow column (rows.y + line)).1.process clipboard
        (s.clickRow column (rows.y + line)).2 := by
  obtain ⟨others, hview⟩ := h.view
  have hcontains : rows.contains column (rows.y + line) = true := by
    rw [contains_iff, Covers]
    exact ⟨hcolumn, by simp only [Rect.bottom]; omega⟩
  have hfind : ((Control.rows, rows) :: others).find?
      (fun control => control.2.contains column (rows.y + line)) = some (.rows, rows) :=
    List.find?_cons_of_pos hcontains
  simp only [State.click, respond, handle, handleMouse, h.complete, if_true, hview, listMouse, hfind]

theorem Knows.rowAt? (h : s.Knows rows) (hline : line < rows.height) (length : Nat) :
    s.app.cursor.rowAt? (rows.y + line) length =
      if s.app.cursor.offset + line < length then some (s.app.cursor.offset + line) else none := by
  have hrow : rows.y ≤ rows.y + line ∧ rows.y + line < rows.bottom := by
    simp only [Rect.bottom]
    omega
  simp only [Cursor.rowAt?, h.place, hrow, and_self, if_true, Nat.add_sub_cancel_left]

theorem Knows.isInIdColumn_iff (h : s.Knows rows) (hwidth : 75 ≤ rows.width)
    (hline : line < rows.height) :
    s.app.cursor.isInIdColumn column = true ↔ Covers (idArea rows) column (rows.y + line) := by
  rw [Cursor.isInIdColumn, h.idColumn, idArea_eq hwidth, covers_mk]
  simp only [Bool.and_eq_true, decide_eq_true_eq, Nat.le_add_right, Nat.add_lt_add_left hline,
    and_true]

theorem Knows.click_none (h : s.Knows rows) (hcolumn : Columns rows column)
    (hline : line < rows.height)
    (hserver : s.app.servers[s.app.cursor.offset + line]? = none) :
    s.click clipboard column (rows.y + line) = (s, []) := by
  have hend : ¬s.app.cursor.offset + line < s.app.servers.length :=
    Nat.not_lt.2 (List.getElem?_eq_none_iff.1 hserver)
  rw [h.click hcolumn hline, clickRow, h.rowAt? hline, if_neg hend, process_nil]

theorem Knows.click_some (h : s.Knows rows) (hcolumn : Columns rows column)
    (hline : line < rows.height) {server : Server}
    (hserver : s.app.servers[s.app.cursor.offset + line]? = some server)
    (hfind : Server.find s.app.servers server.id = server) :
    s.click clipboard column (rows.y + line) =
      if s.app.cursor.isInIdColumn column = true then
        ((s.select (s.app.cursor.offset + line)).showing server, [])
      else (s.select (s.app.cursor.offset + line), []) := by
  obtain ⟨hin, -⟩ := List.getElem?_eq_some_iff.1 hserver
  have hselected : (s.select (s.app.cursor.offset + line)).app.selected? = some server := hserver
  have hrow : s.clickRow column (rows.y + line) =
      if s.app.cursor.isInIdColumn column = true then
        (s.select (s.app.cursor.offset + line)).openSelected false
      else (s.select (s.app.cursor.offset + line), []) := by
    rw [clickRow, h.rowAt? hline, if_pos hin]
    rfl
  rw [h.click hcolumn hline, hrow]
  split
  · exact process_openSelected hselected hfind clipboard
  · rw [process_nil]

/-- What is drawn on a cell of the rows of the list, and what a click on it does. -/
structure CellAgrees (s : State) (clipboard : Clipboard) (c : Canvas) (rows : Rect)
    (column line : Nat) : Prop where
  /-- The cell is one of the row of the server, or of no row if the servers end before it. -/
  shows : ∃ cell, c.cell? column (rows.y + line) = some cell ∧
    (s.app.rowLine rows (s.app.cursor.offset + line)).cell? column 0 = some cell
  /-- A click selects the server. -/
  selects : ∀ server, s.app.servers[s.app.cursor.offset + line]? = some server →
    (s.click clipboard column (rows.y + line)).1.app.selected? = some server
  /-- Where the identifiers are drawn, a click shows the server alone. -/
  opens : ∀ server, s.app.servers[s.app.cursor.offset + line]? = some server →
    Covers (idArea rows) column (rows.y + line) →
      s.click clipboard column (rows.y + line) =
        ((s.select (s.app.cursor.offset + line)).showing server, [])
  /-- Elsewhere, a click does no more than to select. -/
  stays : ∀ server, s.app.servers[s.app.cursor.offset + line]? = some server →
    ¬Covers (idArea rows) column (rows.y + line) →
      s.click clipboard column (rows.y + line) = (s.select (s.app.cursor.offset + line), [])
  /-- Without a row, a click changes nothing. -/
  ignores : s.app.servers[s.app.cursor.offset + line]? = none →
    s.click clipboard column (rows.y + line) = (s, [])

theorem Knows.cellAgrees {c : Canvas} (h : s.Knows rows)
    (hids : (s.app.servers.map Server.id).Nodup) (hwidth : 75 ≤ rows.width)
    (hcolumn : Columns rows column) (hline : line < rows.height)
    (hdrawn : SameLine (Columns rows) (rows.y + line) 0 c
      (s.app.rowLine rows (s.app.cursor.offset + line))) :
    s.CellAgrees clipboard c rows column line := by
  have hid : s.app.cursor.isInIdColumn column = true ↔ _ := h.isInIdColumn_iff hwidth hline
  have hclick {server : Server}
      (hserver : s.app.servers[s.app.cursor.offset + line]? = some server) :
      s.click clipboard column (rows.y + line) = _ :=
    h.click_some hcolumn hline hserver
      (Server.find_of_nodup hids (List.mem_of_getElem? hserver))
  constructor
  case shows =>
    obtain ⟨cell, hcell⟩ := exists_cell_rowLine s.app rows (s.app.cursor.offset + line) hcolumn.2
    exact ⟨cell, (hdrawn column hcolumn).trans hcell, hcell⟩
  case selects =>
    intro server hserver
    rw [hclick hserver]
    split <;> exact hserver
  case opens =>
    intro server hserver hcovers
    rw [hclick hserver, if_pos (hid.2 hcovers)]
  case stays =>
    intro server hserver hcovers
    rw [hclick hserver, if_neg fun hin => hcovers (hid.1 hin)]
  case ignores => exact h.click_none hcolumn hline

end State

/-- **What is clicked is what is drawn.** The list is drawn on a screen with room for all columns of
the table, wherever the cursor was and whatever was shown first. Then the cursor is in view, and each
cell of a line of the rows is one of the row of the server that far from the first one shown. A click
on it selects this very server, and shows it alone if its identifier is drawn there. Where the servers
have come to an end, there is no row, and a click changes nothing. Each line reads the texts of its
server, from the identifier on, every one in its column. -/
theorem clicked_isDrawn {s : State} (clipboard : Clipboard) {width height : Nat}
    (hcomplete : s.app.session.isComplete = true) (hlist : s.view.content.route = .list)
    (hdialog : s.view.dialog = none) (hids : (s.app.servers.map Server.id).Nodup)
    (hwidth : 78 ≤ width) (hheight : 11 ≤ height) :
    let drawn := (s.render width height).1
    let canvas := (s.render width height).2.canvas
    let rows := listRows width height s.app.session.isAdmin
    0 < rows.height ∧ drawn.app.cursor.rows = rows ∧ drawn.app.servers = s.app.servers ∧
      drawn.app.cursor.IsInView rows.height s.app.servers.length ∧
      (∀ line < rows.height, ∀ column, Columns rows column →
        drawn.CellAgrees clipboard canvas rows column line) ∧
      ∀ line < rows.height, drawn.app.ShowsLine canvas rows line := by
  have hlines := buttonLines_le s.app.session.isAdmin
  have hrows : 0 < (listRows width height s.app.session.isAdmin).height := by
    simp only [listRows]
    omega
  have hcolumns : 75 ≤ (listRows width height s.app.session.isAdmin).width := by
    simp only [listRows]
    omega
  obtain ⟨others, harranged⟩ := State.arrange_list hcomplete hlist hdialog
    (by omega : 2 ≤ width) hheight
  unfold State.render
  dsimp only
  rw [harranged]
  refine ⟨hrows, rfl, rfl, Cursor.arrange_isInView _ _ hrows, fun line hline column hcolumn => ?_,
    fun line hline => ?_⟩
  · refine State.Knows.cellAgrees ⟨hcomplete, ⟨others, rfl⟩, rfl, rfl⟩ hids hcolumns hcolumn hline ?_
    exact sameLine_draw rfl hcomplete rfl rfl (by omega) hheight hline
  · refine showsLine_of_sameLine _ hcolumns ?_
    exact sameLine_draw rfl hcomplete rfl rfl (by omega) hheight hline

/-- On a screen of 78 columns and 12 lines, the line below the first row begins with the identifier of
the second server, and a click there shows it. -/
theorem clicked_isDrawn_second :
    let fetched : Outcome := .fetched 1 (.ok [Course.sample "a", Course.sample "b"])
    let s := (((State.start .nord Course.administrator).issue .list).1.deliver fetched false).1
    let drawn := (s.render 78 12).1
    s.app.session.isComplete = true ∧ s.view.content.route = .list ∧ s.view.dialog = none ∧
      (s.app.servers.map Server.id).Nodup ∧ 78 ≤ 78 ∧ 11 ≤ 12 ∧
      (s.render 78 12).2.canvas.Shows 4 ⟨1, 3, 14, 2⟩ "b" ∧
      drawn.click noClipboard 1 4 = ((drawn.select 1).showing (Course.sample "b"), []) := by
  intro fetched s drawn
  have hcomplete : s.app.session.isComplete = true := by decide
  have hids : (s.app.servers.map Server.id).Nodup := by decide
  have hoffset : (s.render 78 12).1.app.cursor.offset = 0 := by decide
  have hsecond : drawn.app.servers[drawn.app.cursor.offset + 1]? = some (Course.sample "b") := by
    decide
  obtain ⟨-, -, -, -, hcells, hlines⟩ :=
    clicked_isDrawn noClipboard hcomplete rfl rfl hids (by decide : 78 ≤ 78) (by decide : 11 ≤ 12)
  have hcell := hcells 1 (by decide) 1 (by unfold Columns; decide)
  have hopens := hcell.opens _ hsecond (by decide)
  rw [hoffset] at hopens
  have hid := (hlines 1 (by decide)).shows_id hsecond
  have hadmin : s.app.session.isAdmin = true := by decide
  have harea : idArea (listRows 78 12 true) = ⟨1, 3, 14, 2⟩ := idArea_eq (by decide)
  have hname : Text.truncated idWidth (Course.sample "b").id = "b" := by decide
  rw [hadmin, harea, hname] at hid
  exact ⟨hcomplete, rfl, rfl, hids, by decide, by decide, hid, hopens⟩

end Console

end McpConsole
