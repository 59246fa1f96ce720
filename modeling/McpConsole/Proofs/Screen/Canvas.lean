import McpConsole.Screen.Canvas

/-!
# What drawing changes

A canvas is looked at cell by cell (`Canvas.cell?`). `Canvas.Within P c d` says that `d` is what has
become of `c` by drawing inside of `P`: no cell outside of `P` has changed, and every cell is still
there. What fills a rectangle changes each cell of it once (`Canvas.cell?_modifyRect`), and what draws
text on a row stays on the row.

What is drawn on a row depends on nothing but that row. `Canvas.SameLine` relates a row of a canvas to
a row of another one, and drawing the same text on both keeps them the same.
-/

namespace McpConsole.Screen

namespace Canvas

/-- The cell at a place, if the place is on the canvas. -/
def cell? (c : Canvas) (x y : Nat) : Option Cell :=
  if x < c.width ∧ y < c.height then c.cells[y * c.width + x]? else none

/-- The places of a rectangle. -/
def Covers (r : Rect) (x y : Nat) : Prop :=
  (r.x ≤ x ∧ x < r.right) ∧ r.y ≤ y ∧ y < r.bottom

instance (r : Rect) (x y : Nat) : Decidable (Covers r x y) :=
  inferInstanceAs (Decidable (_ ∧ _))

theorem covers_mk {x y width height x' y' : Nat} :
    Covers ⟨x, y, width, height⟩ x' y' ↔
      (x ≤ x' ∧ x' < x + width) ∧ y ≤ y' ∧ y' < y + height := Iff.rfl

theorem contains_iff (r : Rect) (x y : Nat) : r.contains x y = true ↔ Covers r x y := by
  simp [Rect.contains, Covers, and_assoc]

/-- The cells of a row come before those of the rows below it. -/
theorem place_lt {width x y y' : Nat} (hx : x < width) (hy : y < y') :
    y * width + x < y' * width := by
  calc y * width + x < y * width + width := Nat.add_lt_add_left hx _
    _ = (y + 1) * width := (Nat.succ_mul y width).symm
    _ ≤ y' * width := Nat.mul_le_mul_right width hy

/-- Different cells of a canvas are at different places. -/
theorem place_inj {width x y x' y' : Nat} (hx : x < width) (hx' : x' < width)
    (h : y * width + x = y' * width + x') : x = x' ∧ y = y' := by
  rcases Nat.lt_trichotomy y y' with hlt | rfl | hlt
  · have hplace := place_lt hx hlt
    omega
  · exact ⟨Nat.add_left_cancel h, rfl⟩
  · have hplace := place_lt hx' hlt
    omega

theorem cell?_blank {width height x y : Nat} (hx : x < width) (hy : y < height) :
    (blank width height).cell? x y = some .empty := by
  have hplace : y * width + x < width * height := by
    rw [Nat.mul_comm width height]
    exact place_lt hx hy
  simp [cell?, blank, hx, hy, hplace]

/-! ### Cells -/

section Cells

variable (c : Canvas) (change : Cell → Cell)

@[simp] theorem modify_width (x y : Nat) : (c.modify x y change).width = c.width := by
  unfold modify
  split <;> rfl

@[simp] theorem modify_height (x y : Nat) : (c.modify x y change).height = c.height := by
  unfold modify
  split <;> rfl

theorem cell?_modify (x y x' y' : Nat) :
    (c.modify x y change).cell? x' y' =
      if x' = x ∧ y' = y then (c.cell? x' y').map change else c.cell? x' y' := by
  unfold modify
  by_cases hon : x < c.width ∧ y < c.height
  · rw [if_pos hon]
    unfold cell?
    by_cases hon' : x' < c.width ∧ y' < c.height
    · have hplace : y * c.width + x = y' * c.width + x' ↔ x' = x ∧ y' = y := by
        constructor
        · intro h
          obtain ⟨rfl, rfl⟩ := place_inj hon.1 hon'.1 h
          exact ⟨rfl, rfl⟩
        · rintro ⟨rfl, rfl⟩
          rfl
      simp only [hon', Array.getElem?_modify, hplace, and_self, if_true]
    · simp [hon']
  · rw [if_neg hon]
    by_cases hat : x' = x ∧ y' = y
    · obtain ⟨rfl, rfl⟩ := hat
      simp [cell?, hon]
    · rw [if_neg hat]

theorem modifyRun_width (x y count : Nat) : (modifyRun change y x count c).width = c.width := by
  induction count generalizing c x with
  | zero => rfl
  | succ count ih => rw [modifyRun, ih, modify_width]

theorem modifyRun_height (x y count : Nat) : (modifyRun change y x count c).height = c.height := by
  induction count generalizing c x with
  | zero => rfl
  | succ count ih => rw [modifyRun, ih, modify_height]

theorem cell?_modifyRun (x y count x' y' : Nat) :
    (modifyRun change y x count c).cell? x' y' =
      if (x ≤ x' ∧ x' < x + count) ∧ y' = y then (c.cell? x' y').map change else c.cell? x' y' := by
  induction count generalizing c x with
  | zero =>
    have hnone : ¬((x ≤ x' ∧ x' < x + 0) ∧ y' = y) := by omega
    rw [if_neg hnone]
    rfl
  | succ count ih =>
    rw [modifyRun, ih, cell?_modify]
    by_cases hfirst : x' = x ∧ y' = y
    · have hrest : ¬((x + 1 ≤ x' ∧ x' < x + 1 + count) ∧ y' = y) := by omega
      have hall : (x ≤ x' ∧ x' < x + (count + 1)) ∧ y' = y := by omega
      rw [if_neg hrest, if_pos hfirst, if_pos hall]
    · have hsame : ((x + 1 ≤ x' ∧ x' < x + 1 + count) ∧ y' = y) ↔
          (x ≤ x' ∧ x' < x + (count + 1)) ∧ y' = y := by omega
      simp only [if_neg hfirst, hsame]

/-- The first rows of a rectangle, filled one after the other. -/
theorem fold_modifyRun (x y width height : Nat) :
    let d := (List.range height).foldl (fun c row => modifyRun change (y + row) x width c) c
    d.width = c.width ∧ d.height = c.height ∧ ∀ x' y', d.cell? x' y' =
      if Covers ⟨x, y, width, height⟩ x' y' then (c.cell? x' y').map change else c.cell? x' y' := by
  induction height with
  | zero =>
    refine ⟨rfl, rfl, fun x' y' => ?_⟩
    have hnone : ¬Covers ⟨x, y, width, 0⟩ x' y' := by
      rw [covers_mk]
      omega
    rw [if_neg hnone]
    rfl
  | succ height ih =>
    obtain ⟨hwidth, hheight, hcell⟩ := ih
    rw [List.range_succ, List.foldl_append, List.foldl_cons, List.foldl_nil]
    refine ⟨?_, ?_, fun x' y' => ?_⟩
    · rw [modifyRun_width, hwidth]
    · rw [modifyRun_height, hheight]
    · rw [cell?_modifyRun, hcell]
      by_cases hlast : (x ≤ x' ∧ x' < x + width) ∧ y' = y + height
      · have hbefore : ¬Covers ⟨x, y, width, height⟩ x' y' := by
          rw [covers_mk]
          omega
        have hall : Covers ⟨x, y, width, height + 1⟩ x' y' := by
          rw [covers_mk]
          omega
        rw [if_pos hlast, if_neg hbefore, if_pos hall]
      · have hsame : Covers ⟨x, y, width, height⟩ x' y' ↔
            Covers ⟨x, y, width, height + 1⟩ x' y' := by
          rw [covers_mk, covers_mk]
          omega
        simp only [if_neg hlast, hsame]

@[simp] theorem modifyRect_width (r : Rect) : (c.modifyRect r change).width = c.width :=
  (fold_modifyRun c change _ _ _ _).1

@[simp] theorem modifyRect_height (r : Rect) : (c.modifyRect r change).height = c.height :=
  (fold_modifyRun c change _ _ _ _).2.1

/-- **Each cell of a rectangle is changed once.** -/
theorem cell?_modifyRect (r : Rect) (x y : Nat) :
    (c.modifyRect r change).cell? x y =
      if Covers r x y then (c.cell? x y).map change else c.cell? x y := by
  rw [modifyRect, (fold_modifyRun c change _ _ _ _).2.2]
  by_cases hon : x < c.width ∧ y < c.height
  · have hsame : Covers ⟨(r.intersect c.area).x, (r.intersect c.area).y, (r.intersect c.area).width,
        (r.intersect c.area).height⟩ x y ↔ Covers r x y := by
      simp only [Covers, Rect.intersect, area, Rect.right, Rect.bottom]
      omega
    simp only [hsame]
  · simp [cell?, hon]

theorem cell?_style (r : Rect) (s : Style) (x y : Nat) :
    (c.style r s).cell? x y =
      if Covers r x y then (c.cell? x y).map (Cell.styled · s) else c.cell? x y :=
  cell?_modifyRect c _ r x y

end Cells

/-! ### Regions -/

/-- What has become of a canvas by drawing inside of a region. -/
structure Within (P : Nat → Nat → Prop) (c d : Canvas) : Prop where
  width : d.width = c.width
  height : d.height = c.height
  /-- Every cell is still there. -/
  keeps : ∀ x y, (d.cell? x y).isSome = (c.cell? x y).isSome
  outside : ∀ x y, ¬P x y → d.cell? x y = c.cell? x y

/-- The places on the rows of a rectangle. -/
def Rows (r : Rect) (_x y : Nat) : Prop :=
  r.y ≤ y ∧ y < r.bottom

/-- The places on a row. -/
def Row (row : Nat) (_x y : Nat) : Prop :=
  y = row

/-- The places of a stretch of a row, from one column up to another. -/
def Stretch (row x right : Nat) (x' y : Nat) : Prop :=
  (x ≤ x' ∧ x' < right) ∧ y = row

/-- The places on the edge of a rectangle. -/
def Edge (r : Rect) (x y : Nat) : Prop :=
  Covers r x y ∧ (x = r.x ∨ x + 1 = r.right ∨ y = r.y ∨ y + 1 = r.bottom)

namespace Within

variable {P Q : Nat → Nat → Prop} {c d e : Canvas}

theorem refl (P : Nat → Nat → Prop) (c : Canvas) : Within P c c :=
  ⟨rfl, rfl, fun _ _ => rfl, fun _ _ _ => rfl⟩

theorem trans (h : Within P c d) (h' : Within P d e) : Within P c e where
  width := h'.width.trans h.width
  height := h'.height.trans h.height
  keeps x y := (h'.keeps x y).trans (h.keeps x y)
  outside x y hp := (h'.outside x y hp).trans (h.outside x y hp)

theorem mono (h : Within P c d) (hpq : ∀ x y, P x y → Q x y) : Within Q c d where
  width := h.width
  height := h.height
  keeps := h.keeps
  outside x y hq := h.outside x y fun hp => hq (hpq x y hp)

theorem exists_cell (h : Within P c d) {x y : Nat} {cell : Cell} (hc : c.cell? x y = some cell) :
    ∃ cell, d.cell? x y = some cell := by
  have hkeeps := h.keeps x y
  rw [hc] at hkeeps
  exact Option.isSome_iff_exists.1 hkeeps

/-- What is drawn step by step stays where every step stays. -/
theorem foldl {α : Type} {items : List α} {draw : Canvas → α → Canvas}
    (h : ∀ item ∈ items, ∀ c, Within P c (draw c item)) (c : Canvas) :
    Within P c (items.foldl draw c) := by
  induction items generalizing c with
  | nil => exact refl P c
  | cons item items ih =>
    have hfirst := h item List.mem_cons_self c
    exact hfirst.trans (ih (fun other hother => h other (List.mem_cons_of_mem item hother)) _)

end Within

variable (c : Canvas)

theorem modify_within (x y : Nat) (change : Cell → Cell) :
    Within (fun x' y' => x' = x ∧ y' = y) c (c.modify x y change) where
  width := modify_width c change x y
  height := modify_height c change x y
  keeps x' y' := by
    rw [cell?_modify]
    split <;> simp
  outside x' y' h := by rw [cell?_modify, if_neg h]

theorem modifyRun_within (x y count : Nat) (change : Cell → Cell) :
    Within (Stretch y x (x + count)) c (modifyRun change y x count c) where
  width := modifyRun_width c change x y count
  height := modifyRun_height c change x y count
  keeps x' y' := by
    rw [cell?_modifyRun]
    split <;> simp
  outside x' y' h := by
    rw [cell?_modifyRun]
    exact if_neg h

theorem modifyRect_within (r : Rect) (change : Cell → Cell) :
    Within (Covers r) c (c.modifyRect r change) where
  width := modifyRect_width c change r
  height := modifyRect_height c change r
  keeps x y := by
    rw [cell?_modifyRect]
    split <;> simp
  outside x y h := by rw [cell?_modifyRect, if_neg h]

theorem style_within (r : Rect) (s : Style) : Within (Covers r) c (c.style r s) :=
  modifyRect_within c r _

theorem put_within (x y : Nat) (symbol : String) (s : Style) :
    Within (Row y) c (c.put x y symbol s) :=
  (modify_within c x y _).mono fun _ _ h => h.2

theorem glyphs_within (x y : Nat) (row : List Glyph) : Within (Row y) c (glyphs y x row c) := by
  induction row generalizing c x with
  | nil => exact .refl _ c
  | cons g gs ih =>
    rw [glyphs]
    split
    · exact ih c x
    · exact (put_within c x y g.symbol g.style).trans (ih _ _)

theorem paragraph_within (r : Rect) (rows : List (List Glyph)) :
    Within (Rows r) c (c.paragraph r rows) := by
  unfold paragraph
  split
  · exact .refl _ c
  · refine Within.foldl (fun item hitem d => ?_) c
    obtain ⟨row, i⟩ := item
    have hi : i < r.height := by
      have hlength := (List.mem_zipIdx hitem).2.1
      rw [List.length_take] at hlength
      omega
    refine (glyphs_within d r.x (r.y + i) row).mono fun x y hy => ?_
    simp only [Row, Rows, Rect.bottom] at hy ⊢
    omega

theorem lines_within (r : Rect) (texts : List Line) : Within (Rows r) c (c.lines r texts) :=
  paragraph_within c r _

theorem centred_within (r : Rect) (text : Span) : Within (Rows r) c (c.centred r text) := by
  unfold centred
  dsimp only
  split
  · exact .refl _ c
  · rename_i hempty
    refine (glyphs_within c _ r.y _).mono fun x y hy => ?_
    simp only [Rect.isEmpty, Bool.or_eq_true, beq_iff_eq, not_or] at hempty
    simp only [Row, Rows, Rect.bottom] at hy ⊢
    omega

theorem cellGlyphs_within {r : Rect} (hroom : 0 < r.width) {x : Nat} {isFirst : Bool}
    (hx : r.x ≤ x) (hfirst : isFirst = true → x = r.x) (text : List Glyph) :
    Within (Stretch r.y r.x r.right) c (cellGlyphs r x isFirst text c) := by
  induction text generalizing c x isFirst with
  | nil => exact .refl _ c
  | cons g gs ih =>
    have hright : r.right = r.x + r.width := rfl
    have hmodify (d : Canvas) (change : Cell → Cell) {x' : Nat} (hx' : r.x ≤ x' ∧ x' < r.right) :
        Within (Stretch r.y r.x r.right) d (d.modify x' r.y change) :=
      (modify_within d x' r.y change).mono fun _ _ h => ⟨h.1 ▸ hx', h.2⟩
    rw [cellGlyphs]
    dsimp only
    split
    · exact .refl _ c
    · rename_i hfits
      refine Within.trans ?_ (ih _ (by omega) (by simp))
      refine Within.trans ?_ ((modifyRun_within _ _ _ _ _).mono fun x' y' h => ⟨?_, h.2⟩)
      · split
        · rename_i hisFirst
          have hstart := hfirst hisFirst
          exact hmodify c _ (by omega)
        · split
          · exact hmodify c _ (by omega)
          · split
            · exact hmodify c _ (by omega)
            · exact hmodify c _ (by omega)
      · have hstretch := h.1
        omega

theorem span_within (r : Rect) (text : Span) :
    Within (Stretch r.y r.x r.right) c (c.span r text) := by
  unfold span
  split
  · exact .refl _ c
  · rename_i hempty
    simp only [Rect.isEmpty, Bool.or_eq_true, beq_iff_eq, not_or] at hempty
    exact cellGlyphs_within c (by omega) (Nat.le_refl _) (fun _ => rfl) text.glyphs

theorem Within.modifyRect {P : Nat → Nat → Prop} {c d : Canvas} {r : Rect} {change : Cell → Cell}
    (h : Within P c d) (hr : ∀ x y, Covers r x y → P x y) : Within P c (d.modifyRect r change) :=
  h.trans ((modifyRect_within d r change).mono hr)

theorem Within.put {P : Nat → Nat → Prop} {c d : Canvas} {x y : Nat} {symbol : String} {s : Style}
    (h : Within P c d) (hp : P x y) : Within P c (d.put x y symbol s) :=
  h.trans ((modify_within d x y _).mono fun _ _ hat => hat.1 ▸ hat.2 ▸ hp)

theorem border_within (r : Rect) (frame : Frame) (s : Style) :
    Within (Edge r) c (c.border r frame s) := by
  unfold border
  split
  · exact .refl _ c
  · rename_i hempty
    have hsize : r.width ≠ 0 ∧ r.height ≠ 0 := by
      simpa [Rect.isEmpty] using hempty
    have hleft : ∀ x y, Covers ⟨r.x, r.y, 1, r.height⟩ x y → Edge r x y := by
      grind [Covers, Edge, Rect.right, Rect.bottom]
    have htop : ∀ x y, Covers ⟨r.x, r.y, r.width, 1⟩ x y → Edge r x y := by
      grind [Covers, Edge, Rect.right, Rect.bottom]
    have hright : ∀ x y, Covers ⟨r.right - 1, r.y, 1, r.height⟩ x y → Edge r x y := by
      grind [Covers, Edge, Rect.right, Rect.bottom]
    have hbottom : ∀ x y, Covers ⟨r.x, r.bottom - 1, r.width, 1⟩ x y → Edge r x y := by
      grind [Covers, Edge, Rect.right, Rect.bottom]
    have hcorner {x y : Nat} (hx : x = r.x ∨ x = r.right - 1) (hy : y = r.y ∨ y = r.bottom - 1) :
        Edge r x y := by
      grind [Covers, Edge, Rect.right, Rect.bottom]
    refine .put (.put (.put (.put ?_ ?_) ?_) ?_) ?_
    · exact .modifyRect (.modifyRect (.modifyRect (.modifyRect (.refl _ c) hleft) htop) hright)
        hbottom
    · exact hcorner (.inr rfl) (.inr rfl)
    · exact hcorner (.inr rfl) (.inl rfl)
    · exact hcorner (.inl rfl) (.inr rfl)
    · exact hcorner (.inl rfl) (.inl rfl)

/-- Within its edge a panel has its surface, whatever its title is. -/
theorem panel_within (r : Rect) (surface : Style) (frame : Frame) (edge : Style)
    (title : Option Span) :
    Within (fun x y => Edge r x y ∨ y = r.y) (c.style r surface)
      (c.panel r surface frame edge title) := by
  have hborder := (border_within (c.style r surface) r frame edge).mono
    fun x y (h : Edge r x y) => (.inl h : Edge r x y ∨ y = r.y)
  unfold panel
  cases title with
  | none => exact hborder
  | some title =>
    dsimp only
    split
    · exact hborder
    · exact hborder.trans ((span_within _ _ title).mono fun _ _ h => .inr h.2)

theorem button_within (r : Rect) (label : String) (s edge : Style) :
    Within (Rows r) c (c.button r label s edge) := by
  have hstyle := (style_within c r s).mono fun _ _ h => (h.2 : Rows r _ _)
  have hborder := (border_within (c.style r s) r .angular edge).mono
    fun _ _ h => (h.1.2 : Rows r _ _)
  refine (hstyle.trans hborder).trans ((centred_within _ r.inside _).mono fun x y h => ?_)
  simp only [Rows, Rect.inside, Rect.bottom] at h ⊢
  omega

/-! ### Rows -/

/-- A row of a canvas is the same as a row of another one, at some columns. -/
def SameLine (P : Nat → Prop) (y y' : Nat) (c d : Canvas) : Prop :=
  ∀ x, P x → c.cell? x y = d.cell? x y'

namespace SameLine

variable {P : Nat → Prop} {y y' : Nat} {c d : Canvas}

theorem modify (h : SameLine P y y' c d) (x : Nat) (change : Cell → Cell) :
    SameLine P y y' (c.modify x y change) (d.modify x y' change) := by
  intro x' hx'
  rw [cell?_modify, cell?_modify, h x' hx']
  simp only [and_true]

theorem modifyRun (h : SameLine P y y' c d) (x count : Nat) (change : Cell → Cell) :
    SameLine P y y' (Canvas.modifyRun change y x count c)
      (Canvas.modifyRun change y' x count d) := by
  intro x' hx'
  rw [cell?_modifyRun, cell?_modifyRun, h x' hx']
  simp only [and_true]

/-- A style changes a row alike if its rectangles meet the rows alike. -/
theorem style (h : SameLine P y y' c d) (r r' : Rect) (s : Style)
    (hr : ∀ x, P x → (Covers r x y ↔ Covers r' x y')) :
    SameLine P y y' (c.style r s) (d.style r' s) := by
  intro x hx
  rw [cell?_style, cell?_style, h x hx]
  simp only [hr x hx]

theorem cellGlyphs (h : SameLine P y y' c d) (x width height x' : Nat) (isFirst : Bool)
    (text : List Glyph) :
    SameLine P y y' (Canvas.cellGlyphs ⟨x, y, width, height⟩ x' isFirst text c)
      (Canvas.cellGlyphs ⟨x, y', width, height⟩ x' isFirst text d) := by
  induction text generalizing c d x' isFirst with
  | nil => exact h
  | cons g gs ih =>
    by_cases hfull : x + width < x' + g.width
    · simp only [Canvas.cellGlyphs, Rect.right, hfull, if_true]
      exact h
    · simp only [Canvas.cellGlyphs, Rect.right, hfull, if_false]
      refine ih (SameLine.modifyRun ?_ _ _ _) _ _
      by_cases hfirst : isFirst = true
      · simp only [hfirst, if_true]
        exact h.modify _ _
      · by_cases hstart : x' = x
        · simp only [hfirst, hstart, if_true]
          exact h.modify _ _
        · by_cases hwidth : g.width = 0
          · simp only [hfirst, hstart, hwidth, if_true, if_false]
            exact h.modify _ _
          · simp only [hfirst, hstart, hwidth, if_false]
            exact h.modify _ _

theorem span (h : SameLine P y y' c d) (x width height : Nat) (text : Span) :
    SameLine P y y' (c.span ⟨x, y, width, height⟩ text) (d.span ⟨x, y', width, height⟩ text) := by
  by_cases hnothing : (width == 0 || height == 0 || text.columns == 0) = true
  · simp only [Canvas.span, Rect.isEmpty, hnothing, if_true]
    exact h
  · simp only [Canvas.span, Rect.isEmpty, hnothing]
    exact h.cellGlyphs x width height x true text.glyphs

/-- What is drawn elsewhere leaves a row the same. -/
theorem trans_within {e : Canvas} {Q : Nat → Nat → Prop} (h : SameLine P y y' c d)
    (hwithin : Within Q c e) (hout : ∀ x, P x → ¬Q x y) : SameLine P y y' e d := by
  intro x hx
  rw [hwithin.outside x y (hout x hx), h x hx]

end SameLine

end Canvas

end McpConsole.Screen
