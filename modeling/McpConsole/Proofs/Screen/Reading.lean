import McpConsole.Proofs.Screen.Canvas

/-!
# What a row of the screen reads

`Canvas.reads` is what stands in a stretch of a row, from the left to the right. A text that is drawn
into a blank stretch stands there as far as there is room for it, and what is left of the stretch stays
blank: `Canvas.Shows` says so of one stretch (`shows_span`), and styles change nothing in it. `shown` is
the text as it stands in the cells, where a wide cluster is followed by the cells that it covers.

While a text is drawn, its first clusters stand in the first cells and the others are blank still;
this is `Canvas.Spells`, and every cluster that is drawn keeps it.
-/

namespace McpConsole.Screen

open McpConsole.Text

/-! ### Texts in cells -/

/-- So many blank cells. -/
def blanks (n : Nat) : String :=
  String.ofList (List.replicate n ' ')

theorem blanks_succ (n : Nat) : blanks (n + 1) = blanks n ++ " " := by
  rw [blanks, List.replicate_succ', String.ofList_append]
  rfl

/-- The clusters of a text that are drawn. -/
def drawnClusters (text : String) : List (List Char) :=
  (Cluster.clusters text.toList).filter fun cluster => !cluster.any isControl

/-- Clusters as they stand in so many cells, as far as they fit. -/
def written : Nat → List (List Char) → String
  | _, [] => ""
  | room, cluster :: clusters =>
    if room < Width.columns cluster then ""
    else String.ofList cluster ++ blanks (Width.columns cluster - 1) ++
      written (room - Width.columns cluster) clusters

/-- A text as it stands in so many cells, as far as it fits. -/
def shown (width : Nat) (text : String) : String :=
  if width = 0 ∨ Width.columns text.toList = 0 then "" else written width (drawnClusters text)

namespace Canvas

/-! ### Symbols -/

/-- The symbol at a place, if the place is on the canvas. -/
def symbol? (c : Canvas) (x y : Nat) : Option String :=
  (c.cell? x y).map Cell.symbol

/-- What stands in so many cells of a row from a column on. -/
def reads (c : Canvas) (y x : Nat) : Nat → String
  | 0 => ""
  | n + 1 => c.reads y x n ++ (c.symbol? (x + n) y).getD ""

/-- Cells of a row from a column on are blank. -/
def IsBlank (c : Canvas) (y x width : Nat) : Prop :=
  ∀ x', x ≤ x' → x' < x + width → c.symbol? x' y = some " "

/-- A text stands in the columns of a rectangle, and nothing else does. -/
def Shows (c : Canvas) (y : Nat) (r : Rect) (text : String) : Prop :=
  ∃ n, c.reads y r.x r.width = shown r.width text ++ blanks n

section Symbols

variable {c d : Canvas} {x y y' width n : Nat}

theorem symbol?_style (c : Canvas) (r : Rect) (s : Style) (x y : Nat) :
    (c.style r s).symbol? x y = c.symbol? x y := by
  rw [symbol?, cell?_style]
  split
  · rw [Option.map_map]
    rfl
  · rfl

/-- What changes a cell changes the symbol there, in its own way. -/
theorem symbol?_modify (c : Canvas) {change : Cell → Cell} {f : String → String}
    (hchange : ∀ cell, (change cell).symbol = f cell.symbol) (x y x' : Nat) :
    (c.modify x y change).symbol? x' y =
      if x' = x then (c.symbol? x' y).map f else c.symbol? x' y := by
  rw [symbol?, cell?_modify]
  simp only [and_true]
  split
  · rw [symbol?, Option.map_map, Option.map_map]
    exact congrArg (Option.map · _) (funext hchange)
  · rfl

theorem symbol?_put (c : Canvas) (x y : Nat) (symbol : String) (s : Style) (x' : Nat) :
    (c.put x y symbol s).symbol? x' y =
      if x' = x then (c.symbol? x' y).map fun _ => symbol else c.symbol? x' y :=
  symbol?_modify c (fun _ => rfl) x y x'

theorem symbol?_append (c : Canvas) (x y : Nat) (symbol : String) (s : Style) (x' : Nat) :
    (c.append x y symbol s).symbol? x' y =
      if x' = x then (c.symbol? x' y).map (· ++ symbol) else c.symbol? x' y :=
  symbol?_modify c (fun _ => rfl) x y x'

theorem symbol?_empty (c : Canvas) (x y count x' : Nat) :
    (modifyRun (fun _ => .empty) y x count c).symbol? x' y =
      if x ≤ x' ∧ x' < x + count then (c.symbol? x' y).map fun _ => " " else c.symbol? x' y := by
  rw [symbol?, cell?_modifyRun]
  simp only [and_true]
  split
  · rw [symbol?, Option.map_map, Option.map_map]
    rfl
  · rfl

theorem reads_congr (h : ∀ x', x ≤ x' → x' < x + n → d.symbol? x' y' = c.symbol? x' y) :
    d.reads y' x n = c.reads y x n := by
  induction n with
  | zero => rfl
  | succ n ih =>
    rw [reads, reads, ih fun x' hx hn => h x' hx (by omega), h (x + n) (by omega) (by omega)]

theorem Shows.congr {r : Rect} {text : String} (h : c.Shows y r text)
    (hsymbol : ∀ x', r.x ≤ x' → x' < r.right → d.symbol? x' y' = c.symbol? x' y) :
    d.Shows y' r text := by
  obtain ⟨n, hn⟩ := h
  exact ⟨n, (reads_congr hsymbol).trans hn⟩

theorem IsBlank.style (h : c.IsBlank y x width) (r : Rect) (s : Style) :
    (c.style r s).IsBlank y x width := by
  intro x' hx hwidth
  rw [symbol?_style, h x' hx hwidth]

theorem IsBlank.mono {x' width' : Nat} (h : c.IsBlank y x width) (hx : x ≤ x')
    (hright : x' + width' ≤ x + width) : c.IsBlank y x' width' :=
  fun place hplace hwidth => h place (by omega) (by omega)

theorem Shows.style {r : Rect} {text : String} (h : c.Shows y r text) (r' : Rect) (s : Style) :
    (c.style r' s).Shows y r text :=
  h.congr fun x' _ _ => symbol?_style c r' s x' y

theorem Within.symbol? {P : Nat → Nat → Prop} (h : Within P c d) (hout : ¬P x y) :
    d.symbol? x y = c.symbol? x y :=
  congrArg (Option.map Cell.symbol) (h.outside x y hout)

theorem Within.isSome_symbol? {P : Nat → Nat → Prop} (h : Within P c d) (x y : Nat) :
    (d.symbol? x y).isSome = (c.symbol? x y).isSome := by
  rw [Canvas.symbol?, Canvas.symbol?, Option.isSome_map, Option.isSome_map, h.keeps x y]

theorem SameLine.symbol? {P : Nat → Prop} (h : SameLine P y y' c d) (hx : P x) :
    c.symbol? x y = d.symbol? x y' :=
  congrArg (Option.map Cell.symbol) (h x hx)

end Symbols

/-! ### Cluster by cluster -/

/-- The first cells of a stretch of a row hold a text, and the others are blank. -/
structure Spells (c : Canvas) (y x width n : Nat) (front : String) : Prop where
  le : n ≤ width
  reads : c.reads y x n = front
  isSome : ∀ x', x ≤ x' → x' < x + width → (c.symbol? x' y).isSome = true
  blank : ∀ x', x + n ≤ x' → x' < x + width → c.symbol? x' y = some " "

section Spells

variable {c : Canvas} {x y width n : Nat} {front : String}

theorem IsBlank.spells (h : c.IsBlank y x width) : c.Spells y x width 0 "" where
  le := Nat.zero_le width
  reads := rfl
  isSome x' hx hwidth := by rw [h x' hx hwidth, Option.isSome_some]
  blank := h

namespace Spells

/-- Blank cells can be counted to the text. -/
theorem skip (h : c.Spells y x width n front) {k : Nat} (hk : n + k ≤ width) :
    c.Spells y x width (n + k) (front ++ blanks k) := by
  induction k with
  | zero =>
    show c.Spells y x width n (front ++ "")
    rwa [String.append_empty]
  | succ k ih =>
    have hprev := ih (by omega)
    have hcell := h.blank (x + (n + k)) (by omega) (by omega)
    refine ⟨hk, ?_, h.isSome, fun x' hx => h.blank x' (by omega)⟩
    rw [← Nat.add_assoc, Canvas.reads, hprev.reads, hcell, Option.getD_some, String.append_assoc,
      blanks_succ]

/-- What a whole stretch reads. -/
theorem reads_width (h : c.Spells y x width n front) :
    c.reads y x width = front ++ blanks (width - n) := by
  have hle := h.le
  have hall := h.skip (k := width - n) (by omega)
  rw [Nat.add_sub_cancel' hle] at hall
  exact hall.reads

/-- A symbol comes behind the text. -/
theorem put (h : c.Spells y x width n front) (hn : n < width) (symbol : String) (s : Style) :
    (c.put (x + n) y symbol s).Spells y x width (n + 1) (front ++ symbol) where
  le := hn
  reads := by
    have hbefore : (c.put (x + n) y symbol s).reads y x n = c.reads y x n :=
      reads_congr fun x' _ hx => by rw [symbol?_put, if_neg (by omega)]
    have hcell := h.blank (x + n) (Nat.le_refl _) (by omega)
    rw [Canvas.reads, hbefore, h.reads, symbol?_put, if_pos rfl, hcell]
    rfl
  isSome x' hx hwidth :=
    ((modify_within c _ y _).isSome_symbol? x' y).trans (h.isSome x' hx hwidth)
  blank x' hx hwidth := by
    rw [symbol?_put, if_neg (by omega), h.blank x' (by omega) hwidth]

/-- A symbol joins the last one of the text. -/
theorem append (h : c.Spells y x width (n + 1) front) (symbol : String) (s : Style) :
    (c.append (x + n) y symbol s).Spells y x width (n + 1) (front ++ symbol) where
  le := h.le
  reads := by
    have hle := h.le
    have hbefore : (c.append (x + n) y symbol s).reads y x n = c.reads y x n :=
      reads_congr fun x' _ hx => by rw [symbol?_append, if_neg (by omega)]
    obtain ⟨last, hlast⟩ :=
      Option.isSome_iff_exists.1 (h.isSome (x + n) (Nat.le_add_right x n) (by omega))
    rw [Canvas.reads, hbefore, symbol?_append, if_pos rfl, ← h.reads, Canvas.reads, hlast]
    simp only [Option.map_some, Option.getD_some, String.append_assoc]
  isSome x' hx hwidth :=
    ((modify_within c _ y _).isSome_symbol? x' y).trans (h.isSome x' hx hwidth)
  blank x' hx hwidth := by
    rw [symbol?_append, if_neg (by omega), h.blank x' hx hwidth]

/-- Cells behind the text are emptied. -/
theorem empty (h : c.Spells y x width n front) {x' : Nat} (hx : x + n ≤ x') (count : Nat) :
    (modifyRun (fun _ => .empty) y x' count c).Spells y x width n front where
  le := h.le
  reads := (reads_congr fun x'' _ hn => by rw [symbol?_empty, if_neg (by omega)]).trans h.reads
  isSome x'' hx' hwidth :=
    ((modifyRun_within c x' y count _).isSome_symbol? x'' y).trans (h.isSome x'' hx' hwidth)
  blank x'' hn hwidth := by
    rw [symbol?_empty, h.blank x'' hn hwidth]
    split <;> rfl

/-- Cells behind the text are emptied and counted to it. -/
theorem cover (h : c.Spells y x width n front) (count : Nat) (hcount : n + count ≤ width) :
    (modifyRun (fun _ => .empty) y (x + n) count c).Spells y x width (n + count)
      (front ++ blanks count) :=
  (h.empty (Nat.le_refl _) count).skip hcount

/-- A symbol of some columns comes behind a text that has come so far. Without columns it joins the
last symbol, and at the very beginning any symbol joins one that is there already. -/
theorem follow (h : c.Spells y x width (max n 1) front) {columns : Nat} (hfits : n + columns ≤ width)
    (symbol : String) (s : Style) :
    (modifyRun (fun _ => .empty) y (x + n + 1) (columns - 1)
      (if x + n = x then c.append (x + n) y symbol s
      else if columns = 0 then c.append (x + n - 1) y symbol s
      else c.put (x + n) y symbol s)).Spells y x width (max (n + columns) 1)
        (front ++ symbol ++ blanks (columns - 1)) := by
  have hle := h.le
  cases n with
  | zero =>
    have hafter : max (0 + columns) 1 = 1 + (columns - 1) := by omega
    rw [if_pos (Nat.add_zero x), hafter]
    exact (h.append (n := 0) symbol s).cover _ (by omega)
  | succ n =>
    rw [Nat.max_eq_left (Nat.le_add_left 1 n)] at h
    rw [if_neg (by omega), Nat.max_eq_left (by omega)]
    cases columns with
    | zero => exact (h.append symbol s).cover 0 hfits
    | succ columns =>
      have hafter : n + 1 + (columns + 1) = n + 1 + 1 + columns := by omega
      rw [if_neg (Nat.succ_ne_zero columns), hafter]
      exact (h.put (by omega) symbol s).cover columns (by omega)

end Spells

/-- **What is written behind a text** that has come so far, where a first cluster without columns has
a cell nevertheless. -/
theorem reads_cellGlyphs {r : Rect} {clusters : List (List Char)} (style : Style)
    (h : c.Spells r.y r.x r.width (max n 1) front) :
    ∃ k, (cellGlyphs r (r.x + n) false (clusters.map (Glyph.ofCluster style)) c).reads r.y r.x
      r.width = front ++ written (r.width - n) clusters ++ blanks k := by
  induction clusters generalizing c n front with
  | nil =>
    refine ⟨r.width - max n 1, ?_⟩
    rw [written, String.append_empty]
    exact h.reads_width
  | cons cluster clusters ih =>
    have hle := h.le
    have hright : r.right = r.x + r.width := rfl
    rw [List.map_cons, cellGlyphs]
    by_cases hfull : r.width - n < Width.columns cluster
    · refine ⟨r.width - max n 1, ?_⟩
      rw [if_pos (by show r.right < r.x + n + Width.columns cluster; omega), written, if_pos hfull,
        String.append_empty]
      exact h.reads_width
    · have hfits : n + Width.columns cluster ≤ r.width := by omega
      obtain ⟨k, hk⟩ := ih (h.follow hfits (String.ofList cluster) style)
      refine ⟨k, ?_⟩
      rw [if_neg (by show ¬r.right < r.x + n + Width.columns cluster; omega), written,
        if_neg hfull, Nat.sub_sub]
      have hplace : r.x + n + (Glyph.ofCluster style cluster).width =
          r.x + (n + Width.columns cluster) := Nat.add_assoc _ _ _
      simp only [hplace, ← String.append_assoc] at hk ⊢
      exact hk

/-- A text in the first cells of a blank stretch. -/
theorem reads_cellGlyphs_first {r : Rect} {clusters : List (List Char)} (style : Style)
    (hblank : c.IsBlank r.y r.x r.width) (hroom : 0 < r.width) :
    ∃ k, (cellGlyphs r r.x true (clusters.map (Glyph.ofCluster style)) c).reads r.y r.x r.width =
      written r.width clusters ++ blanks k := by
  have hspells := hblank.spells
  have hright : r.right = r.x + r.width := rfl
  cases clusters with
  | nil => exact ⟨r.width, hspells.reads_width⟩
  | cons cluster clusters =>
    rw [List.map_cons, cellGlyphs, written]
    by_cases hfull : r.width < Width.columns cluster
    · rw [if_pos (by show r.right < r.x + Width.columns cluster; omega), if_pos hfull]
      exact ⟨r.width, hspells.reads_width⟩
    · rw [if_neg (by show ¬r.right < r.x + Width.columns cluster; omega), if_neg hfull]
      have hput := hspells.put hroom (String.ofList cluster) style
      have hcover := hput.cover (Width.columns cluster - 1) (by omega)
      have hafter : 0 + 1 + (Width.columns cluster - 1) = max (Width.columns cluster) 1 := by omega
      rw [hafter, String.empty_append] at hcover
      exact reads_cellGlyphs style hcover

/-- **A text stands where it is drawn.** -/
theorem shows_span {r : Rect} (text : Span) (hheight : r.height ≠ 0)
    (hblank : c.IsBlank r.y r.x r.width) : (c.span r text).Shows r.y r text.text := by
  unfold span Shows shown
  by_cases hnothing : r.width = 0 ∨ Width.columns text.text.toList = 0
  · have hempty : (r.isEmpty || text.columns == 0) = true := by
      simpa [Rect.isEmpty, Span.columns, hheight] using hnothing
    rw [if_pos hempty, if_pos hnothing]
    exact ⟨r.width, hblank.spells.reads_width⟩
  · have hdrawn : ¬(r.isEmpty || text.columns == 0) = true := by
      simpa [Rect.isEmpty, Span.columns, hheight] using hnothing
    rw [if_neg hdrawn, if_neg hnothing]
    exact reads_cellGlyphs_first text.style hblank (by omega)

-- The next cluster has no room behind the wide one.
example : shown 3 "日本" = "日 " := by decide +kernel

end Spells

end Canvas

end McpConsole.Screen
