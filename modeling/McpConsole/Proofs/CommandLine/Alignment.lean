import McpConsole.Proofs.CommandLine.Lines
import McpConsole.Proofs.Text.Width

/-!
# Where the columns of the printed table begin

The identifier and the name of a server are cut to terminal columns, but every cell is filled up by
counting characters, and the other cells are not cut. So a cell takes the columns of its heading exactly
if it takes as many columns as it has characters, but no more than its width (`starts_eq_iff`).
That is so of a server with narrow texts and kinds that are known (`starts_of_isOrdinary`).
`columns_aligned_iff` says for every line of the table that its columns begin where those of the
headings begin exactly if this holds of each cell, and `columns_shift` has them shifted.
-/

namespace McpConsole.CommandLine

open McpConsole.Text

/-! ### The beginnings of columns -/

/-- What stands in a line before a column. -/
def front (columns : List (List Char)) (k : Nat) : List Char :=
  laid ((columnWidths.zip columns).take k)

/-- The terminal columns at which the columns of a line begin, from the second one on. -/
def starts (m : List Char → Nat) (columns : List (List Char)) : List Nat :=
  (List.range columnWidths.length).map fun k => m (front columns (k + 1))

/-- A text that has each cell behind what stands before its column. -/
def HoldsCells (text : List Char) (columns : List (List Char)) (last : List Char) : Prop :=
  ∀ k cell, (columns ++ [last])[k]? = some cell → front columns k ++ cell <+: text

theorem holdsCells_lineText {columns : List (List Char)}
    (h : columns.length = columnWidths.length) (last : List Char) :
    HoldsCells (lineText columns last) columns last := by
  intro k cell hcell
  have hparts : laid (columnWidths.zip columns) =
      front columns k ++ laid ((columnWidths.zip columns).drop k) := by
    rw [front, laid, laid, laid, ← List.flatMap_append, List.take_append_drop]
  rw [lineText, hparts, List.append_assoc, List.prefix_append_right_inj]
  rcases Nat.lt_trichotomy k columns.length with hlt | rfl | hgt
  · rw [List.getElem?_append_left hlt] at hcell
    obtain ⟨-, rfl⟩ := List.getElem?_eq_some_iff.1 hcell
    have hzip : k < (columnWidths.zip columns).length := by
      rw [List.length_zip]
      omega
    rw [List.drop_eq_getElem_cons hzip, List.getElem_zip]
    simp [laid, padded]
  · rw [List.getElem?_concat_length] at hcell
    obtain rfl := Option.some.inj hcell
    rw [List.drop_eq_nil_of_le (by rw [List.length_zip]; omega)]
    exact List.prefix_rfl
  · rw [List.getElem?_eq_none (by simp; omega)] at hcell
    cases hcell

/-! ### How much cells take -/

section Measure

variable {m : List Char → Nat}

/-- The terminal columns of a cell that is filled up to a width, with the blanks behind it. -/
def taken (m : List Char → Nat) (p : Nat × List Char) : Nat :=
  m p.2 + (p.1 - p.2.length + 2)

theorem taken_eq_iff (m : List Char → Nat) (p : Nat × List Char) :
    taken m p = p.1 + 2 ↔ m p.2 = min p.2.length p.1 := by
  unfold taken
  omega

theorem measure_laid (hm : Width.IsMeasure m) (columns : List (Nat × List Char)) :
    m (laid columns) = (columns.map (taken m)).sum := by
  induction columns with
  | nil => exact hm.nil
  | cons p columns ih =>
    have hcell : laid (p :: columns) =
        p.2 ++ (List.replicate (p.1 - p.2.length + 1 + 1) ' ' ++ laid columns) := by
      simp [laid, padded, List.replicate_add]
    rw [hcell, hm.append_blanks, ih, List.map_cons, List.sum_cons, taken]

/-- **Columns begin where they should** exactly if every cell takes as many terminal columns as it has
characters, but no more than its width. -/
theorem starts_eq_iff (hm : Width.IsMeasure m) (id name transport auth date : List Char) :
    starts m [id, name, transport, auth, date] = [26, 48, 59, 73, 85] ↔
      ∀ p ∈ columnWidths.zip [id, name, transport, auth, date], m p.2 = min p.2.length p.1 := by
  simp only [← taken_eq_iff]
  simp [starts, front, measure_laid hm, columnWidths, List.range_succ]
  omega

end Measure

/-! ### Servers that are shown in their places -/

section Narrow

variable {cs : List Char} {s : Server}

/-- A text whose characters take one column each. -/
def IsNarrow (cs : List Char) : Prop :=
  ∀ c ∈ cs, Width.ofChar c = 1

instance (cs : List Char) : Decidable (IsNarrow cs) :=
  inferInstanceAs (Decidable (∀ c ∈ cs, Width.ofChar c = 1))

theorem sum_of_isNarrow (h : IsNarrow cs) : Width.sum cs = cs.length := by
  induction cs with
  | nil => rfl
  | cons c cs ih =>
    have hc : Width.ofChar c = 1 := h c List.mem_cons_self
    have hcs : IsNarrow cs := fun d hd => h d (List.mem_cons_of_mem c hd)
    rw [Width.sum_cons, hc, ih hcs, List.length_cons, Nat.add_comm]

theorem isNarrow_truncate (h : IsNarrow cs) (width : Nat) : IsNarrow (truncate width cs) := by
  intro c hc
  rcases mem_truncate hc with hc | rfl
  · exact h c hc
  · exact Width.ofChar_ellipsis

/-- A narrow text takes its column, if it is no longer or is cut. -/
theorem sum_eq_min_of_isNarrow {width : Nat} (h : IsNarrow cs) (hle : Width.sum cs ≤ width) :
    Width.sum cs = min cs.length width := by
  rw [sum_of_isNarrow h] at hle ⊢
  exact (Nat.min_eq_left hle).symm

theorem sum_truncate_of_isNarrow {width : Nat} (h : IsNarrow cs) :
    Width.sum (truncate width cs) = min (truncate width cs).length width :=
  sum_eq_min_of_isNarrow (isNarrow_truncate h width) (sum_truncate_le width cs)

/-- A server with narrow texts of any length for its identifier and its name, with kinds that are
known, and with a date that fits. -/
structure IsOrdinary (s : Server) : Prop where
  id : IsNarrow s.id.toList
  name : IsNarrow (s.details.name.getD "-").toList
  transport : s.details.transport ∈ Transport.choices
  auth : s.details.auth ∈ Auth.choices
  date : IsNarrow (Time.formatDate s.createdAt).toList
  dateFits : Width.sum (Time.formatDate s.createdAt).toList ≤ 10

/-- **An ordinary server is shown in its places.** -/
theorem starts_of_isOrdinary (h : IsOrdinary s) :
    starts Width.sum (cells s) = [26, 48, 59, 73, 85] := by
  have htransport : ∀ t ∈ Transport.choices,
      Width.sum t.label.toList = min t.label.toList.length 9 := by decide
  have hauth : ∀ a ∈ Auth.choices, Width.sum a.label.toList = min a.label.toList.length 12 := by
    decide
  refine (starts_eq_iff Width.isMeasure_sum _ _ _ _ _).2 ?_
  simp only [columnWidths, List.zip_cons_cons, List.zip_nil_left, List.forall_mem_cons,
    List.not_mem_nil, false_implies, implies_true, and_true]
  exact ⟨sum_truncate_of_isNarrow h.id, sum_truncate_of_isNarrow h.name, htransport _ h.transport,
    hauth _ h.auth, sum_eq_min_of_isNarrow h.date h.dateFits⟩

end Narrow

/-! ### All lines -/

/-- **The columns of every line** begin where those of the headings begin exactly if each cell before
the URL takes as many terminal columns as it has characters, but no more than the width of its column.
It does not matter whether the characters are measured alone or the text as a whole. The last line is
that of its server up to the blanks at its end. -/
theorem columns_aligned_iff {servers : List Server} (h : ∀ s ∈ servers, ¬s.Shows '\n')
    {m : List Char → Nat} (hm : m ∈ [Width.sum, Width.columns]) :
    let lines := (renderTable servers).toList.splitOn '\n'
    lines[0]? = some headerText ∧ HoldsCells headerText headings "URL".toList ∧
      starts m headings = [26, 48, 59, 73, 85] ∧
      ∀ i s, servers[i]? = some s →
        (∃ line gap, lines[i + 1]? = some line ∧ IsGap gap ∧ line ++ gap = rowText s) ∧
          HoldsCells (rowText s) (cells s) s.details.url.toList ∧
          (starts m (cells s) = starts m headings ↔
            ∀ p ∈ columnWidths.zip (cells s), m p.2 = min p.2.length p.1) := by
  intro lines
  have hmeasure := Width.isMeasure_of_mem hm
  have hheadings : starts m headings = [26, 48, 59, 73, 85] := by
    refine (starts_eq_iff hmeasure _ _ _ _ _).2 ?_
    rcases List.mem_cons.1 hm with rfl | hm
    · decide
    · rw [List.mem_singleton.1 hm]
      decide
  refine ⟨getElem?_zero_renderTable h, holdsCells_lineText rfl _, hheadings, ?_⟩
  intro i s hs
  refine ⟨?_, holdsCells_lineText rfl _, ?_⟩
  · have hline := getElem?_succ_renderTable h hs
    by_cases hlast : i + 1 = servers.length
    · rw [if_pos hlast] at hline
      obtain ⟨gap, hgap, htext⟩ := exists_gap_trimEnd (rowText s)
      exact ⟨_, gap, hline, hgap, htext⟩
    · rw [if_neg hlast] at hline
      exact ⟨_, [], hline, List.forall_mem_nil _, List.append_nil _⟩
  · rw [hheadings]
    exact starts_eq_iff hmeasure _ _ _ _ _

/-- A server with an identifier that is cut, and a kind of its own that fits. -/
def longServer : Server :=
  ⟨"abcdefghijklmnopqrstuvwxyz", ⟨none, none, .other "websocket", .apiKey, "u"⟩, none, none, none, none⟩

/-- A server with a name in wide characters. -/
def wideServer : Server :=
  ⟨"srv-1", ⟨some "日本語", none, .http, .none, "u"⟩, none, none, none, none⟩

/-- The columns of the one line are in their places, and those of the other are not. -/
theorem columns_aligned_iff_long :
    (∀ s ∈ [longServer, wideServer], ¬s.Shows '\n') ∧
      starts Width.columns (cells longServer) = starts Width.columns headings ∧
      starts Width.columns (cells wideServer) ≠ starts Width.columns headings := by
  have hshows : ∀ s ∈ [longServer, wideServer], ¬s.Shows '\n' := by decide
  obtain ⟨-, -, -, hrows⟩ := columns_aligned_iff hshows
    (show Width.columns ∈ [Width.sum, Width.columns] from by simp)
  obtain ⟨-, -, hlong⟩ := hrows 0 longServer rfl
  obtain ⟨-, -, hwide⟩ := hrows 1 wideServer rfl
  refine ⟨hshows, hlong.2 (by decide +kernel), fun hsame => ?_⟩
  have hfills := hwide.1 hsame (20, "日本語".toList) (by decide +kernel)
  revert hfills
  decide +kernel

/-- A server with a transport that is not known and is longer than its column. -/
def unknownServer : Server :=
  ⟨"srv-2", ⟨some "b", none, .other "websocket-secure", .none, "u"⟩, none, none, none, none⟩

/-- A name of three wide characters is filled up with 17 blanks, so that what comes after it begins
three columns too far to the right; after a transport that is seven characters too long it begins seven
columns too far. -/
theorem columns_shift :
    starts Width.sum headings = [26, 48, 59, 73, 85] ∧
      ((renderTable [wideServer]).toList.splitOn '\n')[1]? =
        some (front (cells wideServer) 2 ++ "HTTP       None          N/A         u".toList) ∧
      starts Width.sum (cells wideServer) = [26, 51, 62, 76, 88] ∧
      starts Width.columns (cells wideServer) = [26, 51, 62, 76, 88] ∧
      starts Width.sum (cells unknownServer) = [26, 48, 66, 80, 92] := by
  have hshows : ∀ s ∈ [wideServer], ¬s.Shows '\n' := by decide
  have htext : trimEnd (rowText wideServer) =
      front (cells wideServer) 2 ++ "HTTP       None          N/A         u".toList := by
    decide +kernel
  have hline := getElem?_succ_renderTable hshows (i := 0) rfl
  rw [if_pos (by decide), htext] at hline
  exact ⟨by decide +kernel, hline, by decide +kernel, by decide +kernel, by decide +kernel⟩

end McpConsole.CommandLine
