import Mathlib.Data.List.ModifyLast
import McpConsole.CommandLine.Table
import McpConsole.Proofs.Text.Truncate
import McpConsole.Proofs.Time.Display

/-!
# The lines of the printed table

The table is written in lines, each with a line feed, and then the blanks at its end are lost. No line
is blank (`exists_visible_of_mem`), because the date of a server never is: so all that is lost stands
behind the last line, or at its end. `splitOn_renderTable` says that the lines of the table are
otherwise those that were written, and `renderTable_lines` what this means for each server.
-/

namespace McpConsole

open McpConsole.Text

/-- The texts of a server that the table shows. -/
def Server.shownTexts (s : Server) : List String :=
  s.details.name.toList ++ s.createdAt.toList ++
    [s.id, s.details.transport.label, s.details.auth.label, s.details.url]

/-- Whether a character stands in a text of a server that the table shows. -/
def Server.Shows (s : Server) (c : Char) : Prop :=
  ∃ text ∈ s.shownTexts, c ∈ text.toList

instance (s : Server) (c : Char) : Decidable (s.Shows c) :=
  inferInstanceAs (Decidable (∃ text ∈ s.shownTexts, c ∈ text.toList))

namespace CommandLine

/-! ### Lines and their ends -/

section Ends

variable {lines : List (List Char)} {last : List Char}

theorem splitOn_flatMap_append (hlines : ∀ line ∈ lines, '\n' ∉ line) (hlast : '\n' ∉ last) :
    (lines.flatMap (· ++ ['\n']) ++ last).splitOn '\n' = lines ++ [last] := by
  induction lines with
  | nil => exact List.splitOn_eq_singleton hlast
  | cons line lines ih =>
    have hline : ∀ c ∈ line, (c == '\n') = false := by
      intro c hc
      rw [beq_eq_false_iff_ne]
      rintro rfl
      exact hlines line List.mem_cons_self hc
    have hrest := ih fun l hl => hlines l (List.mem_cons_of_mem line hl)
    rw [List.flatMap_cons, List.append_assoc, List.append_assoc, List.singleton_append,
      List.splitOn, List.splitOnP_append_cons_of_forall_mem hline _ (by decide)]
    exact congrArg (line :: ·) hrest

theorem isGap_feed : IsGap ['\n'] := by
  intro c hc
  rw [List.mem_singleton.1 hc]
  decide

/-- Lines with a line feed each, the last of which is not blank, lose blanks of the last one only. -/
theorem trimEnd_flatMap (hlast : ∃ c ∈ last, isBlank c = false) :
    trimEnd ((lines ++ [last]).flatMap (· ++ ['\n'])) =
      lines.flatMap (· ++ ['\n']) ++ trimEnd last := by
  obtain ⟨c, hc, hvisible⟩ := hlast
  rw [List.flatMap_append, List.flatMap_singleton,
    trimEnd_append ⟨c, List.mem_append_left _ hc, hvisible⟩, trimEnd_append_gap isGap_feed]

theorem length_modifyLast {α : Type} (f : α → α) (l : List α) :
    (l.modifyLast f).length = l.length := by
  rcases List.eq_nil_or_concat l with rfl | ⟨front, a, rfl⟩
  · rfl
  · rw [List.concat_eq_append, List.modifyLast_concat, List.length_append, List.length_append,
      List.length_singleton, List.length_singleton]

theorem getElem?_modifyLast {α : Type} (f : α → α) (l : List α) (i : Nat) :
    (l.modifyLast f)[i]? = if i + 1 = l.length then l[i]?.map f else l[i]? := by
  rcases List.eq_nil_or_concat l with rfl | ⟨front, a, rfl⟩
  · rfl
  · rw [List.concat_eq_append, List.modifyLast_concat, List.length_append, List.length_singleton]
    by_cases h : i = front.length
    · subst h
      simp
    · rw [if_neg (by omega)]
      rcases Nat.lt_or_gt_of_ne h with hlt | hgt
      · rw [List.getElem?_append_left hlt, List.getElem?_append_left hlt]
      · rw [List.getElem?_eq_none (by simp; omega), List.getElem?_eq_none (by simp; omega)]

end Ends

/-! ### The lines that are written -/

/-- Columns filled up to their widths, each with two blanks behind it. -/
def laid (columns : List (Nat × List Char)) : List Char :=
  columns.flatMap fun p => padded p.1 p.2 ++ [' ', ' ']

/-- A line of the table without its line feed. -/
def lineText (columns : List (List Char)) (last : List Char) : List Char :=
  laid (columnWidths.zip columns) ++ last

theorem line_eq (columns : List (List Char)) (last : List Char) :
    line columns last = lineText columns last ++ ['\n'] := by
  rw [line, lineText, laid, ← List.map_uncurry_zip_eq_zipWith, List.flatMap_map]
  rfl

theorem mem_lineText {columns : List (List Char)} {last : List Char} {c : Char}
    (h : c ∈ lineText columns last) :
    (∃ cell ∈ columns, c ∈ cell) ∨ c = ' ' ∨ c ∈ last := by
  rw [lineText, laid, List.mem_append, List.mem_flatMap] at h
  rcases h with ⟨⟨width, cell⟩, hmem, hc⟩ | hc
  · have hcell := (List.of_mem_zip hmem).2
    simp only [padded, List.mem_append, List.mem_replicate, List.mem_cons, List.not_mem_nil,
      or_false, or_self] at hc
    rcases hc with (hc | ⟨-, hc⟩) | hc
    · exact .inl ⟨cell, hcell, hc⟩
    · exact .inr (.inl hc)
    · exact .inr (.inl hc)
  · exact .inr (.inr hc)

/-- The names of the columns before the last one. -/
def headings : List (List Char) :=
  ["SERVER ID", "NAME", "TRANSPORT", "AUTH", "CREATED"].map String.toList

/-- The first line. -/
def headerText : List Char :=
  lineText headings "URL".toList

/-- What is shown of a server before its URL. -/
def cells (s : Server) : List (List Char) :=
  [truncate 24 s.id.toList, truncate 20 (s.details.name.getD "-").toList,
    s.details.transport.label.toList, s.details.auth.label.toList,
    (Time.formatDate s.createdAt).toList]

/-- The line of a server as it is written. -/
def rowText (s : Server) : List Char :=
  lineText (cells s) s.details.url.toList

theorem header_eq : header = headerText ++ ['\n'] := line_eq _ _

theorem row_eq (s : Server) : row s = rowText s ++ ['\n'] := line_eq _ _

/-- All lines as they are written. -/
def lineTexts (servers : List Server) : List (List Char) :=
  headerText :: servers.map rowText

theorem renderTable_toList (servers : List Server) :
    (renderTable servers).toList = trimEnd ((lineTexts servers).flatMap (· ++ ['\n'])) := by
  have hrows : servers.flatMap row = (servers.map rowText).flatMap (· ++ ['\n']) := by
    rw [List.flatMap_map, show row = fun s => rowText s ++ ['\n'] from funext row_eq]
  rw [renderTable, String.toList_ofList, lineTexts, List.flatMap_cons, ← hrows, ← header_eq]

/-! ### What stands in a line -/

section Rows

variable {s : Server} {c : Char}

theorem mem_truncate {width : Nat} {cs : List Char} (h : c ∈ truncate width cs) :
    c ∈ cs ∨ c = '…' := by
  unfold truncate at h
  split at h
  · cases h
  split at h
  · exact .inl h
  · rcases List.mem_append.1 h with h | h
    · exact .inl ((fitting_isPrefix _ cs).subset h)
    · exact .inr (List.mem_singleton.1 h)

/-- The cells show what the texts of the server show, and no blanks of their own. -/
theorem shows_of_mem_cells {cell : List Char} (hcell : cell ∈ cells s) (h : c ∈ cell) :
    s.Shows c ∨ isBlank c = false := by
  have hcut : ∀ {width : Nat} {text : String}, c ∈ truncate width text.toList →
      (c ∈ text.toList → s.Shows c ∨ isBlank c = false) → s.Shows c ∨ isBlank c = false := by
    intro width text hc htext
    rcases mem_truncate hc with hc | rfl
    · exact htext hc
    · exact .inr (by decide)
  simp only [cells, List.mem_cons, List.not_mem_nil, or_false] at hcell
  rcases hcell with rfl | rfl | rfl | rfl | rfl
  · exact hcut h fun hc => .inl ⟨_, by simp [Server.shownTexts], hc⟩
  · refine hcut h fun hc => ?_
    cases hname : s.details.name with
    | none =>
      rw [hname] at hc
      obtain rfl : c = '-' := List.mem_singleton.1 hc
      exact .inr (by decide)
    | some name =>
      rw [hname] at hc
      exact .inl ⟨name, by simp [Server.shownTexts, hname], hc⟩
  · exact .inl ⟨_, by simp [Server.shownTexts], h⟩
  · exact .inl ⟨_, by simp [Server.shownTexts], h⟩
  · rcases Time.mem_formatDate h with ⟨text, htext, hc⟩ | hvisible
    · exact .inl ⟨text, by simp [Server.shownTexts, htext], hc⟩
    · exact .inr hvisible

/-- A line has a line feed only if a text of the server has one. -/
theorem feed_notMem_rowText (h : ¬s.Shows '\n') : '\n' ∉ rowText s := by
  intro hc
  rcases mem_lineText hc with ⟨cell, hcell, hc⟩ | hc | hc
  · rcases shows_of_mem_cells hcell hc with hshows | hvisible
    · exact h hshows
    · revert hvisible
      decide
  · revert hc
    decide
  · exact h ⟨_, by simp [Server.shownTexts], hc⟩

/-- A line goes on after the identifier with something that can be seen. -/
theorem exists_rowText (s : Server) :
    ∃ rest, rowText s = truncate 24 s.id.toList ++ rest ∧ ∃ c ∈ rest, isBlank c = false := by
  obtain ⟨c, hc, hvisible⟩ := Time.exists_visible_formatDate s.createdAt
  simp only [rowText, lineText, laid, cells, columnWidths, List.zip_cons_cons, List.flatMap_cons,
    padded, List.append_assoc]
  refine ⟨_, rfl, c, ?_, hvisible⟩
  simp [hc]

theorem url_suffix_rowText (s : Server) : s.details.url.toList <:+ rowText s :=
  List.suffix_append _ _

end Rows

/-! ### The lines of the table -/

section Table

variable {servers : List Server}

theorem exists_visible_of_mem {text : List Char} (h : text ∈ lineTexts servers) :
    ∃ c ∈ text, isBlank c = false := by
  rcases List.mem_cons.1 h with rfl | h
  · exact ⟨'S', by decide, by decide⟩
  · obtain ⟨s, -, rfl⟩ := List.mem_map.1 h
    obtain ⟨rest, htext, c, hc, hvisible⟩ := exists_rowText s
    exact ⟨c, by simp [htext, hc], hvisible⟩

theorem feed_notMem_of_mem (h : ∀ s ∈ servers, ¬s.Shows '\n') {text : List Char}
    (htext : text ∈ lineTexts servers) : '\n' ∉ text := by
  rcases List.mem_cons.1 htext with rfl | htext
  · decide
  · obtain ⟨s, hs, rfl⟩ := List.mem_map.1 htext
    exact feed_notMem_rowText (h s hs)

/-- **The lines of the table** are those that were written, the last one without the blanks at its
end. -/
theorem splitOn_renderTable (h : ∀ s ∈ servers, ¬s.Shows '\n') :
    (renderTable servers).toList.splitOn '\n' = (lineTexts servers).modifyLast trimEnd := by
  rcases List.eq_nil_or_concat (lineTexts servers) with hnil | ⟨front, last, hconcat⟩
  · cases hnil
  · rw [List.concat_eq_append] at hconcat
    have hmem : ∀ text ∈ front ++ [last], '\n' ∉ text := fun text htext =>
      feed_notMem_of_mem h (hconcat ▸ htext)
    have hlast : last ∈ lineTexts servers := by simp [hconcat]
    have hfront : ∀ text ∈ front, '\n' ∉ text := fun text htext =>
      hmem text (List.mem_append_left _ htext)
    have htrimmed : '\n' ∉ trimEnd last := fun hc =>
      feed_notMem_of_mem h hlast ((trimEnd_isPrefix last).subset hc)
    rw [renderTable_toList, hconcat, trimEnd_flatMap (exists_visible_of_mem hlast),
      splitOn_flatMap_append hfront htrimmed, List.modifyLast_concat]

theorem getLast?_renderTable (servers : List Server) :
    (renderTable servers).toList.getLast? ≠ some '\n' := by
  rw [renderTable_toList]
  intro hlast
  have hblank := isBlank_of_getLast?_trimEnd hlast
  revert hblank
  decide

/-- The headings end with a letter, so that they stay as they are also in a table of their own. -/
theorem getElem?_zero_renderTable (h : ∀ s ∈ servers, ¬s.Shows '\n') :
    ((renderTable servers).toList.splitOn '\n')[0]? = some headerText := by
  have hheader : trimEnd headerText = headerText := by decide
  rw [splitOn_renderTable h, getElem?_modifyLast]
  simp [lineTexts, hheader]

/-- The line of a server in the table. -/
theorem getElem?_succ_renderTable (h : ∀ s ∈ servers, ¬s.Shows '\n') {i : Nat} {s : Server}
    (hs : servers[i]? = some s) :
    ((renderTable servers).toList.splitOn '\n')[i + 1]? =
      some (if i + 1 = servers.length then trimEnd (rowText s) else rowText s) := by
  have htext : (lineTexts servers)[i + 1]? = some (rowText s) := by simp [lineTexts, hs]
  have hlength : (lineTexts servers).length = servers.length + 1 := by simp [lineTexts]
  rw [splitOn_renderTable h, getElem?_modifyLast, htext, hlength]
  by_cases hlast : i + 1 = servers.length
  · rw [if_pos hlast, if_pos (by omega)]
    rfl
  · rw [if_neg hlast, if_neg (by omega)]

/-- **The table has one line for each server, in their order**, after the line of the headings. A line
begins with the identifier of its server, cut to 24 columns, and ends with the URL; only the last one
loses the blanks at its end. No line feed is left behind it. -/
theorem renderTable_lines (h : ∀ s ∈ servers, ¬s.Shows '\n') :
    let lines := (renderTable servers).toList.splitOn '\n'
    lines.length = servers.length + 1 ∧
      (renderTable servers).toList.getLast? ≠ some '\n' ∧
      (∃ first, lines[0]? = some first ∧ first ++ ['\n'] = header) ∧
      ∀ i s, servers[i]? = some s → ∃ line, lines[i + 1]? = some line ∧
        truncate 24 s.id.toList <+: line ∧
        if i + 1 = servers.length then
          line = trimEnd (row s) ∧ trimEnd s.details.url.toList <:+ line
        else line ++ ['\n'] = row s ∧ s.details.url.toList <:+ line := by
  intro lines
  refine ⟨?_, getLast?_renderTable servers, ?_, ?_⟩
  · simp [lines, splitOn_renderTable h, length_modifyLast, lineTexts]
  · exact ⟨headerText, getElem?_zero_renderTable h, header_eq.symm⟩
  · intro i s hs
    obtain ⟨rest, hrest, hvisible⟩ := exists_rowText s
    refine ⟨_, getElem?_succ_renderTable h hs, ?_⟩
    by_cases hlast : i + 1 = servers.length
    · rw [if_pos hlast, if_pos hlast]
      refine ⟨?_, ?_, trimEnd_suffix_append _ _⟩
      · rw [hrest, trimEnd_append hvisible]
        exact List.prefix_append _ _
      · rw [row_eq, trimEnd_append_gap isGap_feed]
    · rw [if_neg hlast, if_neg hlast]
      refine ⟨?_, (row_eq s).symm, url_suffix_rowText s⟩
      rw [hrest]
      exact List.prefix_append _ _

/-- Servers without texts, and with blanks for them. -/
def bareServers : List Server :=
  [⟨"", ⟨some "", none, .other "", .none, " "⟩, some "\t", none, none, none⟩,
    ⟨"", ⟨none, none, .http, .none, "\r "⟩, none, none, none, none⟩]

/-- Neither of two servers without texts is lost, and only the last line loses the blanks of its
URL. -/
theorem renderTable_lines_bare :
    (∀ s ∈ bareServers, ¬s.Shows '\n') ∧
      ((renderTable bareServers).toList.splitOn '\n').length = 3 ∧
      (renderTable bareServers).toList.getLast? ≠ some '\n' ∧
      ∃ first last, ((renderTable bareServers).toList.splitOn '\n')[1]? = some first ∧
        [' '] <:+ first ∧ ((renderTable bareServers).toList.splitOn '\n')[2]? = some last ∧
        last.getLast? = some 'A' := by
  have hshows : ∀ s ∈ bareServers, ¬s.Shows '\n' := by decide
  obtain ⟨hlength, hlast, -, hline⟩ := renderTable_lines hshows
  obtain ⟨first, hfirst, -, -, hurl⟩ := hline 0 _ rfl
  obtain ⟨last, hsecond, -, htrimmed, -⟩ := hline 1 _ rfl
  refine ⟨hshows, hlength, hlast, first, last, hfirst, hurl, hsecond, ?_⟩
  rw [htrimmed]
  decide +kernel

end Table

end CommandLine

end McpConsole
