import McpConsole.Console.Draw.Screen
import McpConsole.Proofs.Console.Areas
import McpConsole.Proofs.Screen.Reading
import Mathlib.Data.List.Forall2

/-!
# What the rows of the list show

`App.rowLine` is a single line with the row of a server, drawn on nothing but the colours of the list.
The rows of the list are drawn one below the other, each on its own line, and everything else that is
drawn on the screen stays away from them. So each line of the rows shows the row of one server
(`sameLine_draw`): of the first one that is shown, of the next one on the line below, and so on. Where
the servers end, the lines show no row.

Such a line reads the texts of its server (`App.ShowsLine`), because the columns of the table are side
by side on a line that is blank before.
-/

namespace McpConsole.Console

open McpConsole.Screen
open McpConsole.Screen.Canvas
open McpConsole.Text

/-! ### A row by itself -/

/-- A line of the list without a row. -/
def App.groundLine (a : App) (width : Nat) : Canvas :=
  let line : Rect := ⟨0, 0, width, 1⟩
  let c := (Canvas.blank width 1).style line (Style.plain.on a.theme.background)
  (c.style line a.theme.panel).style line a.theme.panel

/-- A line of the list with the row of the server at a place, or without a row if there is none. -/
def App.rowLine (a : App) (rows : Rect) (index : Nat) : Canvas :=
  let ground := a.groundLine rows.right
  match a.servers[index]? with
  | some server =>
    drawRow a (tableColumns rows) ⟨rows.x, 0, rows.width, 1⟩ index server ground
  | none => ground

/-! ### Cells and rows -/

section Rows

variable {P : Nat → Prop} {c d : Canvas} {y y' : Nat}

/-- Only the columns and the widths of the columns matter, not their rows. -/
theorem drawCells_dropRows (table : Rect) (n row : Nat) (cells : List Span) (c : Canvas) :
    drawCells (tableColumns table) row cells c =
      drawCells (tableColumns (table.dropRows n)) row cells c := by
  simp only [drawCells, tableColumns, Rect.columns, List.zip_map_left, List.foldl_map]
  rfl

theorem drawCells_stays (columns : List Rect) (row : Nat) (cells : List Span) (c : Canvas) :
    Within (fun x y => y = row ∧ ∃ column ∈ columns, column.x ≤ x ∧ x < column.right) c
      (drawCells columns row cells c) := by
  refine .foldl (fun pair hpair d => ?_) c
  refine (span_within d { pair.1 with y := row, height := 1 } pair.2).mono fun x y h => ?_
  exact ⟨h.2, pair.1, (List.of_mem_zip hpair).1, h.1⟩

theorem drawCells_within (columns : List Rect) (row : Nat) (cells : List Span) (c : Canvas) :
    Within (Row row) c (drawCells columns row cells c) :=
  (drawCells_stays columns row cells c).mono fun _ _ h => h.1

theorem sameLine_drawCells (columns : List Rect) (cells : List Span) (h : SameLine P y y' c d) :
    SameLine P y y' (drawCells columns y cells c) (drawCells columns y' cells d) := by
  unfold drawCells
  generalize columns.zip cells = pairs
  induction pairs generalizing c d with
  | nil => exact h
  | cons pair pairs ih =>
    obtain ⟨column, cell⟩ := pair
    exact ih (h.span column.x column.width 1 cell)

variable (a : App) (columns : List Rect) (x width index : Nat) (server : Server)

theorem drawRow_within (c : Canvas) :
    Within (Row y) c (drawRow a columns ⟨x, y, width, 1⟩ index server c) := by
  have hline (d : Canvas) (s : Style) : Within (Row y) d (d.style ⟨x, y, width, 1⟩ s) :=
    (style_within d _ s).mono fun x' y' h => by
      simp only [covers_mk] at h
      simp only [Row]
      omega
  have hcells := (hline c (a.theme.tableRow index)).trans
    (drawCells_within columns y (a.tableCells server) _)
  unfold drawRow
  dsimp only
  split
  · exact hcells.trans (hline _ _)
  · exact hcells

theorem sameLine_drawRow (h : SameLine P y y' c d) :
    SameLine P y y' (drawRow a columns ⟨x, y, width, 1⟩ index server c)
      (drawRow a columns ⟨x, y', width, 1⟩ index server d) := by
  have hline {c d : Canvas} (h : SameLine P y y' c d) (s : Style) :
      SameLine P y y' (c.style ⟨x, y, width, 1⟩ s) (d.style ⟨x, y', width, 1⟩ s) :=
    h.style _ _ s fun x' _ => by
      simp only [covers_mk]
      omega
  have hcells := sameLine_drawCells columns (a.tableCells server) (hline h (a.theme.tableRow index))
  unfold drawRow
  dsimp only
  split
  · exact hline hcells _
  · exact hcells

/-- Draws rows from a line on. -/
def drawRows (rows : Rect) (first : Nat) (visible : List (Server × Nat)) (c : Canvas) : Canvas :=
  (visible.zipIdx first).foldl (fun c ((server, index), line) =>
    drawRow a columns ⟨rows.x, rows.y + line, rows.width, 1⟩ index server c) c

theorem drawRows_within (rows : Rect) (first : Nat) (visible : List (Server × Nat)) (c : Canvas) :
    Within (fun _ y => rows.y + first ≤ y) c (drawRows a columns rows first visible c) :=
  .foldl (fun item hitem d => by
    obtain ⟨⟨server, index⟩, line⟩ := item
    have hfirst := (List.mem_zipIdx hitem).1
    refine (drawRow_within a columns _ _ index server d).mono fun _ y hy => ?_
    simp only [Row] at hy
    omega) c

/-- **Each of the rows is on its own line.** -/
theorem sameLine_drawRows (rows : Rect) {line first : Nat} (visible : List (Server × Nat))
    (hline : first ≤ line) (h : SameLine P (rows.y + line) 0 c d) :
    SameLine P (rows.y + line) 0 (drawRows a columns rows first visible c)
      (match visible[line - first]? with
        | some (server, index) =>
          drawRow a columns ⟨rows.x, 0, rows.width, 1⟩ index server d
        | none => d) := by
  induction visible generalizing first c with
  | nil => exact h
  | cons row visible ih =>
    obtain ⟨server, index⟩ := row
    have hstep : drawRows a columns rows first ((server, index) :: visible) c =
        drawRows a columns rows (first + 1) visible
          (drawRow a columns ⟨rows.x, rows.y + first, rows.width, 1⟩ index server c) := rfl
    rw [hstep]
    rcases Nat.eq_or_lt_of_le hline with rfl | hlater
    · -- This row is on the line, and all later ones are below it.
      rw [Nat.sub_self, List.getElem?_cons_zero]
      refine (sameLine_drawRow a columns rows.x rows.width index server h).trans_within
        (drawRows_within a columns rows (first + 1) visible _) fun _ _ => ?_
      omega
    · have hplace : line - first = line - (first + 1) + 1 := by omega
      rw [hplace, List.getElem?_cons_succ]
      refine ih hlater (h.trans_within (drawRow_within a columns _ _ index server c) fun _ _ => ?_)
      simp only [Row]
      omega

end Rows

/-! ### The table -/

variable (a : App) {P : Nat → Prop}

/-- The servers that are shown, from the first one. -/
def App.visible (a : App) (height : Nat) : List (Server × Nat) :=
  (a.servers.zipIdx.drop a.cursor.offset).take height

theorem App.getElem?_visible {height line : Nat} (h : line < height) :
    (a.visible height)[line]? =
      (a.servers[a.cursor.offset + line]?).map (·, a.cursor.offset + line) := by
  rw [visible, List.getElem?_take_of_lt h, List.getElem?_drop, List.getElem?_zipIdx, Nat.zero_add]

theorem drawRow_dropRows (table : Rect) (n : Nat) (area : Rect) (index : Nat) (server : Server)
    (c : Canvas) :
    drawRow a (tableColumns table) area index server c =
      drawRow a (tableColumns (table.dropRows n)) area index server c := by
  rw [drawRow, drawRow, drawCells_dropRows table n]

/-- Each line of the rows shows the row of its server. -/
theorem sameLine_drawTable {areas : ListAreas} {c : Canvas} {line : Nat}
    (hP : ∀ x, P x → areas.rows.x ≤ x ∧ x < areas.rows.right) (hline : line < areas.rows.height)
    (h : SameLine P (areas.rows.y + line) 0 (c.style areas.table a.theme.panel)
      (a.groundLine areas.rows.right)) :
    SameLine P (areas.rows.y + line) 0 (drawTable a areas c)
      (a.rowLine areas.rows (a.cursor.offset + line)) := by
  have hrows : areas.rows.y = areas.table.y + 1 := rfl
  by_cases hempty : areas.table.isEmpty = true
  · intro x hx
    have hx := hP x hx
    simp only [Rect.isEmpty, Bool.or_eq_true, beq_iff_eq] at hempty
    simp only [ListAreas.rows, Rect.dropRows, Rect.right] at hx hline
    omega
  · rw [drawTable, if_neg hempty]
    have hheader : SameLine P (areas.rows.y + line) 0
        ((c.style areas.table a.theme.panel).style { areas.table with height := 1 }
          a.theme.tableHeaderRow) (a.groundLine areas.rows.right) :=
      h.trans_within (style_within _ _ _) fun x _ => by
        rw [covers_mk]
        omega
    have hheadings := hheader.trans_within (drawCells_within (tableColumns areas.table)
      areas.table.y (headings.map fun text => ⟨text, a.theme.tableHeader⟩) _) fun x _ => by
        rw [Row]
        omega
    have hfold := sameLine_drawRows a (tableColumns areas.table) areas.rows
      (a.visible areas.rows.height) (Nat.zero_le line) hheadings
    rw [Nat.sub_zero, a.getElem?_visible hline] at hfold
    unfold App.rowLine
    cases hserver : a.servers[a.cursor.offset + line]? with
    | none =>
      rw [hserver] at hfold
      exact hfold
    | some server =>
      rw [hserver] at hfold
      dsimp only [Option.map_some] at hfold ⊢
      rw [drawRow_dropRows a areas.table 1] at hfold
      exact hfold

/-! ### The screen -/

/-- A part side by side with others is on the rows of all of them. -/
theorem rows_of_part_columns {r : Rect} {spacing place x y : Nat} {shares : List Share}
    (h : Rows (part (r.columns spacing shares) place) x y) : Rows r x y := by
  unfold part at h
  rw [List.getD_eq_getElem?_getD] at h
  cases hpart : (r.columns spacing shares)[place]? with
  | none =>
    rw [hpart] at h
    exact absurd h.2 (Nat.not_lt_zero y)
  | some column =>
    rw [hpart] at h
    obtain ⟨portion, -, rfl⟩ := List.mem_map.1 (List.mem_of_getElem? hpart)
    exact h

theorem drawListButtons_within (areas : ListAreas) (c : Canvas) :
    Within (Rows areas.buttons) c (drawListButtons a areas c) := by
  have hbutton (place : Nat) (label : String) (s edge : Style) (c : Canvas) :=
    (button_within c (part (areas.buttons.columns 0
      [.exactly 24, .atLeast 0, .exactly 10, .exactly 2, .exactly 12]) place) label s edge).mono
      fun _ _ => rows_of_part_columns
  unfold drawListButtons
  dsimp only
  split
  · exact ((hbutton 0 _ _ _ c).trans (hbutton 2 _ _ _ _)).trans (hbutton 4 _ _ _ _)
  · exact hbutton 0 _ _ _ c

/-- The columns of a rectangle. -/
def Columns (r : Rect) (x : Nat) : Prop :=
  r.x ≤ x ∧ x < r.right

theorem sameLine_plainPanel (view : Rect) {rows : Rect} {c d : Canvas} {y : Nat} (theme : Theme)
    (title : String) (focused : Bool) (hy : view.y < y ∧ y + 1 < view.bottom)
    (hx : view.x < rows.x ∧ rows.right < view.right) (h : SameLine (Columns rows) y 0 c d) :
    SameLine (Columns rows) y 0 (plainPanel theme view title focused c)
      (d.style ⟨0, 0, rows.right, 1⟩ theme.panel) := by
  have hstyle := h.style view ⟨0, 0, rows.right, 1⟩ theme.panel fun x hcolumn => by
    simp only [Covers, Columns, Rect.right, Rect.bottom] at hcolumn hx hy ⊢
    omega
  refine hstyle.trans_within (panel_within c view _ _ _ _) fun x hcolumn => ?_
  simp only [Edge, Covers, Columns] at hcolumn ⊢
  omega

section Screen

variable {width height line : Nat}

theorem sameLine_drawList {c : Canvas} {rows : Rect}
    (hrows : listRows width height a.session.isAdmin = rows) (hw : 2 ≤ width) (hh : 11 ≤ height)
    (hline : line < rows.height)
    (h : SameLine (Columns rows) (rows.y + line) 0 c ((Canvas.blank rows.right 1).style
      ⟨0, 0, rows.right, 1⟩ (Style.plain.on a.theme.background))) :
    SameLine (Columns rows) (rows.y + line) 0
      (drawList a (screenAreas ⟨0, 0, width, height⟩).content c)
      (a.rowLine rows (a.cursor.offset + line)) := by
  have hlist := rows_listAreas a.session.isAdmin hw hh
  have hareas := listAreas_eq a.session.isAdmin hw (by omega : 9 ≤ height - 2)
  rw [screenAreas_eq (by omega)] at hlist ⊢
  unfold drawList
  dsimp only at hlist ⊢
  generalize listAreas ⟨0, 0, width, height - 2⟩ a.session.isAdmin = areas at *
  obtain rfl : areas.rows = rows := hlist.trans hrows
  obtain ⟨hstatus, htable, hselection, hbuttons⟩ : areas.status = ⟨1, 1, width - 2, 1⟩ ∧
      areas.table = ⟨1, 2, width - 2, height - 2 - 4 - buttonLines a.session.isAdmin⟩ ∧
      areas.selection.y = height - 2 - 2 - buttonLines a.session.isAdmin ∧
      areas.buttons.y = height - 2 - 1 - buttonLines a.session.isAdmin := by
    rw [hareas]
    exact ⟨rfl, rfl, rfl, rfl⟩
  have hplace : areas.rows.x = 1 ∧ areas.rows.y = 3 ∧ areas.rows.right = 1 + (width - 2) ∧
      areas.rows.height = height - 7 - buttonLines a.session.isAdmin := by
    rw [← hrows]
    exact ⟨rfl, rfl, rfl, rfl⟩
  have hlines := buttonLines_le a.session.isAdmin
  -- In the order in which it is drawn; what is not a row stays off the lines of the rows.
  have hpanel := sameLine_plainPanel ⟨0, 0, width, height - 2⟩ a.theme listTitle true
    (by simp only [Rect.bottom]; omega) (by simp only [Rect.right] at hplace ⊢; omega) h
  have habove := hpanel.trans_within (lines_within _ areas.status [a.statusLine]) fun x _ => by
    simp only [hstatus, Rows, Rect.bottom]
    omega
  have hground := habove.style areas.table ⟨0, 0, areas.rows.right, 1⟩
    a.theme.panel fun x hx => by
      rw [htable, covers_mk, covers_mk]
      simp only [Columns] at hx
      omega
  have hrow := sameLine_drawTable a (fun _ hx => hx) hline hground
  have hbelow := hrow.trans_within (lines_within _ areas.selection [a.selectionLine])
    fun x _ => by
      rw [Rows]
      omega
  split
  · refine hbelow.trans_within (drawListButtons_within a areas _) fun x _ => ?_
    rw [Rows]
    omega
  · exact hbelow

/-- **Each line of the rows shows the row of its server**, whatever else is drawn. -/
theorem sameLine_draw {s : State} {rows : Rect}
    (hrows : listRows width height s.app.session.isAdmin = rows)
    (hcomplete : s.app.session.isComplete = true) (hlist : s.view.content.route = .list)
    (hdialog : s.view.dialog = none) (hw : 2 ≤ width) (hh : 11 ≤ height)
    (hline : line < rows.height) :
    SameLine (Columns rows) (rows.y + line) 0 (s.draw width height).canvas
      (s.app.rowLine rows (s.app.cursor.offset + line)) := by
  have hplace : rows.y + line < height - 2 ∧ rows.right ≤ width := by
    rw [← hrows] at hline ⊢
    simp only [listRows, Rect.right] at hline ⊢
    omega
  have hblank : SameLine (Columns rows) (rows.y + line) 0 (Canvas.blank width height)
      (Canvas.blank rows.right 1) := fun x hx => by
    simp only [Columns] at hx
    rw [cell?_blank (by omega) (by omega), cell?_blank hx.2 Nat.one_pos]
  have hscreen := hblank.style ⟨0, 0, width, height⟩ ⟨0, 0, rows.right, 1⟩
    (Style.plain.on s.app.theme.background) fun x hx => by
      simp only [Columns] at hx
      simp only [covers_mk]
      omega
  have hview := sameLine_drawList s.app hrows hw hh hline hscreen
  have hcontent (area : Rect) (c : Canvas) :
      s.drawContent area c = ⟨drawList s.app area c, none⟩ := by
    unfold State.drawContent
    cases hview : s.view.content with
    | list => rfl
    | detail | create =>
      rw [hview] at hlist
      cases hlist
  unfold State.draw
  simp only [hcomplete, hdialog, Option.isSome_none, State.drawMain, hcontent]
  have hareas : screenAreas ⟨0, 0, width, height⟩ = _ := screenAreas_eq (by omega)
  have hnotice := hview.trans_within (lines_within _ (screenAreas ⟨0, 0, width, height⟩).notice
    [noticeLine s.app]) fun x _ => by
      simp only [hareas, Rows]
      omega
  have hfoot := hnotice.trans_within (style_within _ (screenAreas ⟨0, 0, width, height⟩).hints
    s.app.theme.mutedText) fun x _ => by
      simp only [hareas, covers_mk]
      omega
  exact hfoot.trans_within (lines_within _ (screenAreas ⟨0, 0, width, height⟩).hints
    [s.hintLine]) fun x _ => by
      simp only [hareas, Rows]
      omega

end Screen

/-! ### What the rows read -/

section Reading

/-- Cells that are drawn side by side on a blank row stand in their columns. -/
theorem shows_drawCells {columns : List Rect} {row : Nat} (cells : List Span) {c : Canvas}
    (hapart : columns.Pairwise fun a b => a.right ≤ b.x)
    (hblank : ∀ column ∈ columns, c.IsBlank row column.x column.width)
    (hlength : columns.length = cells.length) :
    List.Forall₂ ((drawCells columns row cells c).Shows row) columns (cells.map Span.text) := by
  induction columns generalizing cells c with
  | nil =>
    rw [List.eq_nil_of_length_eq_zero hlength.symm]
    exact .nil
  | cons column columns ih =>
    cases cells with
    | nil => cases hlength
    | cons cell cells =>
      obtain ⟨hfirst, hrest⟩ := List.pairwise_cons.1 hapart
      have hspan := span_within c { column with y := row, height := 1 } cell
      have hshows := shows_span (r := { column with y := row, height := 1 }) cell Nat.one_ne_zero
        (hblank column List.mem_cons_self)
      refine .cons ?_ (ih cells hrest (fun other hother => ?_) (Nat.succ.inj hlength))
      · refine hshows.congr fun x hx hright => ?_
        refine (drawCells_stays columns row cells _).symbol? fun ⟨_, other, hother, hplace⟩ => ?_
        have hbeside := hfirst other hother
        simp only [Rect.right] at hbeside hright
        omega
      · intro x hx hright
        refine (hspan.symbol? fun hat => ?_).trans
          (hblank other (List.mem_cons_of_mem _ hother) x hx hright)
        have hbeside := hfirst other hother
        have hplace := hat.1
        simp only [Rect.right] at hbeside hplace
        omega

/-- The texts of the row of a server, one for each column of the table. -/
def App.rowTexts (a : App) (server : Server) : List String :=
  [truncated idWidth server.id, server.details.name.getD "", server.details.description.getD "",
   server.details.transport.label, server.details.auth.label, server.details.url,
   Time.formatDate server.createdAt, if a.session.isAdmin then "[e] [d]" else ""]

variable {rows : Rect}

theorem isBlank_groundLine (width : Nat) : (a.groundLine width).IsBlank 0 0 width := by
  have hblank : (Canvas.blank width 1).IsBlank 0 0 width := fun x _ hx => by
    rw [symbol?, cell?_blank (by omega) Nat.one_pos]
    rfl
  exact ((hblank.style _ _).style _ _).style _ _

theorem shows_drawRow {columns : List Rect} {area : Rect} (index : Nat) (server : Server) {c : Canvas}
    (hapart : columns.Pairwise fun a b => a.right ≤ b.x)
    (hblank : ∀ column ∈ columns, c.IsBlank area.y column.x column.width)
    (hlength : columns.length = 8) :
    List.Forall₂ ((drawRow a columns area index server c).Shows area.y) columns
      (a.rowTexts server) := by
  have hcells := shows_drawCells (a.tableCells server) hapart
    (fun column hcolumn => (hblank column hcolumn).style area (a.theme.tableRow index)) hlength
  unfold drawRow
  dsimp only
  split
  · exact hcells.imp fun _ _ h => h.style _ _
  · exact hcells

/-- The row of a server holds its texts, each in its column. -/
theorem shows_rowLine {index : Nat} {server : Server} (hserver : a.servers[index]? = some server)
    (hwidth : 75 ≤ rows.width) :
    List.Forall₂ ((a.rowLine rows index).Shows 0) (tableColumns rows) (a.rowTexts server) := by
  have hneeded := needed_tableShares_le hwidth
  unfold App.rowLine
  rw [hserver]
  refine shows_drawRow a index server (Rect.columns_pairwise hneeded) (fun column hcolumn => ?_) ?_
  · have hbounds := Rect.columns_bounds hneeded hcolumn
    exact (isBlank_groundLine a rows.right).mono (Nat.zero_le _)
      (Nat.le_trans hbounds.2 (Nat.le_of_eq (Nat.zero_add _).symm))
  · rw [tableColumns, Rect.columns_of_needed_le hneeded, List.length_map]
    rfl

/-- What stands on a line of the rows: the texts of a server, or nothing where the servers end. -/
def App.ShowsLine (a : App) (c : Canvas) (rows : Rect) (line : Nat) : Prop :=
  match a.servers[a.cursor.offset + line]? with
  | some server => List.Forall₂ (c.Shows (rows.y + line)) (tableColumns rows) (a.rowTexts server)
  | none => c.IsBlank (rows.y + line) rows.x rows.width

theorem showsLine_of_sameLine {c : Canvas} {line : Nat} (hwidth : 75 ≤ rows.width)
    (h : SameLine (Columns rows) (rows.y + line) 0 c
      (a.rowLine rows (a.cursor.offset + line))) : a.ShowsLine c rows line := by
  unfold App.ShowsLine
  cases hserver : a.servers[a.cursor.offset + line]? with
  | some server =>
    have hrow := (List.forall₂_and_left _ _).2
      ⟨fun _ => Rect.columns_bounds (needed_tableShares_le hwidth), shows_rowLine a hserver hwidth⟩
    refine hrow.imp fun column text ⟨hbounds, hshows⟩ => hshows.congr fun x hx hright => ?_
    exact h.symbol? ⟨Nat.le_trans hbounds.1 hx, Nat.lt_of_lt_of_le hright hbounds.2⟩
  | none =>
    have hline : a.rowLine rows (a.cursor.offset + line) = a.groundLine rows.right := by
      rw [App.rowLine, hserver]
    rw [hline] at h
    intro x hx hright
    have hblank := isBlank_groundLine a rows.right
    exact (h.symbol? ⟨hx, hright⟩).trans (hblank x (Nat.zero_le x) (by rwa [Nat.zero_add]))

/-- A line with a row begins with the identifier of the server. -/
theorem App.ShowsLine.shows_id {a : App} {c : Canvas} {line : Nat} (h : a.ShowsLine c rows line)
    {server : Server} (hserver : a.servers[a.cursor.offset + line]? = some server) :
    c.Shows (rows.y + line) (idArea rows) (truncated idWidth server.id) := by
  unfold App.ShowsLine at h
  rw [hserver] at h
  unfold idArea
  generalize tableColumns rows = columns at h
  cases h with
  | cons hid _ => exact hid

end Reading

/-- A line with a row, or without one, is as long as the rows. -/
theorem exists_cell_rowLine (rows : Rect) (index : Nat) {x : Nat} (hx : x < rows.right) :
    ∃ cell, (a.rowLine rows index).cell? x 0 = some cell := by
  have hground : ∃ cell, (a.groundLine rows.right).cell? x 0 = some cell := by
    have hstyle (c : Canvas) (s : Style) := style_within c ⟨0, 0, rows.right, 1⟩ s
    exact (((hstyle _ _).trans (hstyle _ _)).trans (hstyle _ _)).exists_cell
      (cell?_blank hx Nat.one_pos)
  unfold App.rowLine
  dsimp only
  split
  · obtain ⟨cell, hcell⟩ := hground
    exact (drawRow_within a _ _ _ index _ _).exists_cell hcell
  · exact hground

end McpConsole.Console
