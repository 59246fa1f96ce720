import McpConsole.Screen.Rect
import McpConsole.Screen.Text

/-!
# The canvas

What is on the screen, cell by cell, and how styles, glyphs, texts, borders and buttons are drawn
on it. What lies outside the canvas is not drawn. A wide glyph is kept in the first of its cells.
-/

namespace McpConsole.Screen

/-- A cell of the screen. -/
structure Cell where
  symbol : String
  foreground : Color
  background : Color
  bold : Bool
  dim : Bool
  deriving DecidableEq, Repr

namespace Cell

/-- An empty cell. -/
def empty : Cell := ⟨" ", .reset, .reset, false, false⟩

/-- The cell with a style on top. -/
def styled (c : Cell) (s : Style) : Cell where
  symbol := c.symbol
  foreground := s.foreground.getD c.foreground
  background := s.background.getD c.background
  bold := c.bold || s.bold
  dim := c.dim || s.dim

end Cell

/-- The cells of the screen, row by row. -/
structure Canvas where
  width : Nat
  height : Nat
  cells : Array Cell
  deriving DecidableEq, Repr

namespace Canvas

/-- An empty canvas. -/
def blank (width height : Nat) : Canvas :=
  ⟨width, height, Array.replicate (width * height) .empty⟩

/-- All of the canvas. -/
def area (c : Canvas) : Rect :=
  ⟨0, 0, c.width, c.height⟩

/-- Changes a cell. -/
def modify (c : Canvas) (x y : Nat) (change : Cell → Cell) : Canvas :=
  if x < c.width ∧ y < c.height then
    { c with cells := c.cells.modify (y * c.width + x) change }
  else c

/-- Changes the cells from a column on. -/
def modifyRun (change : Cell → Cell) (y : Nat) : Nat → Nat → Canvas → Canvas
  | _, 0, c => c
  | x, count + 1, c => modifyRun change y (x + 1) count (c.modify x y change)

/-- Changes all cells of a rectangle. -/
def modifyRect (c : Canvas) (r : Rect) (change : Cell → Cell) : Canvas :=
  let r := r.intersect c.area
  (List.range r.height).foldl (fun c row => modifyRun change (r.y + row) r.x r.width c) c

/-- Puts a style on a rectangle. -/
def style (c : Canvas) (r : Rect) (s : Style) : Canvas :=
  c.modifyRect r fun cell => cell.styled s

/-- Empties a rectangle. -/
def clear (c : Canvas) (r : Rect) : Canvas :=
  c.modifyRect r fun _ => .empty

/-- Puts a symbol in a style into a cell. -/
def put (c : Canvas) (x y : Nat) (symbol : String) (s : Style) : Canvas :=
  c.modify x y fun cell => { cell with symbol }.styled s

/-- Puts a symbol in a style behind what is in a cell. -/
def append (c : Canvas) (x y : Nat) (symbol : String) (s : Style) : Canvas :=
  c.modify x y fun cell => { cell with symbol := cell.symbol ++ symbol }.styled s

/-! ### Texts -/

/-- Draws a row of glyphs; those without width are left out. -/
def glyphs (y : Nat) : Nat → List Glyph → Canvas → Canvas
  | _, [], c => c
  | x, g :: gs, c =>
    if g.width = 0 then glyphs y x gs c
    else glyphs y (x + g.width) gs (c.put x y g.symbol g.style)

/-- Draws rows of glyphs from the top of a rectangle, as far as it goes. -/
def paragraph (c : Canvas) (r : Rect) (rows : List (List Glyph)) : Canvas :=
  if r.isEmpty then c
  else
    ((rows.take r.height).zipIdx).foldl (fun c (row, i) => glyphs (r.y + i) r.x row c) c

/-- Draws lines of text in a rectangle, cut at its right side. -/
def lines (c : Canvas) (r : Rect) (texts : List Line) : Canvas :=
  c.paragraph r (texts.map fun line => cutLine r.width line.glyphs 0)

/-- Draws lines of text in a rectangle, broken at its right side. -/
def wrapped (c : Canvas) (r : Rect) (trim : Bool) (texts : List Line) : Canvas :=
  c.paragraph r (texts.flatMap fun line => wrap r.width trim line.glyphs)

/-- Draws a text in the middle of the first row of a rectangle. -/
def centred (c : Canvas) (r : Rect) (text : Span) : Canvas :=
  let row := cutLine r.width text.glyphs 0
  if r.isEmpty then c
  else glyphs r.y (r.x + (r.width / 2 - Glyph.columns row / 2)) row c

/-- Draws glyphs one after the other up to the right side of a rectangle. A glyph without width
joins the one before it, and the cells behind a wide glyph are emptied. -/
def cellGlyphs (r : Rect) : Nat → Bool → List Glyph → Canvas → Canvas
  | _, _, [], c => c
  | x, isFirst, g :: gs, c =>
    if r.right < x + g.width then c
    else
      let c :=
        if isFirst then c.put x r.y g.symbol g.style
        else if x = r.x then c.append x r.y g.symbol g.style
        else if g.width = 0 then c.append (x - 1) r.y g.symbol g.style
        else c.put x r.y g.symbol g.style
      let c := modifyRun (fun _ => .empty) r.y (x + 1) (g.width - 1) c
      cellGlyphs r (x + g.width) false gs c

/-- Draws a text in the first row of a rectangle, as far as it goes. -/
def span (c : Canvas) (r : Rect) (text : Span) : Canvas :=
  if r.isEmpty || text.columns == 0 then c else cellGlyphs r r.x true text.glyphs c

/-! ### Borders and buttons -/

/-- The symbols of a border: of its sides and of its corners. -/
structure Frame where
  horizontal : String
  vertical : String
  topLeft : String
  topRight : String
  bottomLeft : String
  bottomRight : String
  deriving DecidableEq, Repr

/-- A border with angular corners. -/
def Frame.angular : Frame := ⟨"─", "│", "┌", "┐", "└", "┘"⟩

/-- A border with round corners. -/
def Frame.rounded : Frame := ⟨"─", "│", "╭", "╮", "╰", "╯"⟩

/-- Draws a border along the inside of a rectangle. -/
def border (c : Canvas) (r : Rect) (frame : Frame) (s : Style) : Canvas :=
  if r.isEmpty then c
  else
    let right := r.right - 1
    let bottom := r.bottom - 1
    let side (symbol : String) (cell : Cell) : Cell := { cell with symbol }.styled s
    let c := c.modifyRect ⟨r.x, r.y, 1, r.height⟩ (side frame.vertical)
    let c := c.modifyRect ⟨r.x, r.y, r.width, 1⟩ (side frame.horizontal)
    let c := c.modifyRect ⟨right, r.y, 1, r.height⟩ (side frame.vertical)
    let c := c.modifyRect ⟨r.x, bottom, r.width, 1⟩ (side frame.horizontal)
    let c := c.put right bottom frame.bottomRight s
    let c := c.put right r.y frame.topRight s
    let c := c.put r.x bottom frame.bottomLeft s
    c.put r.x r.y frame.topLeft s

/-- Draws a panel: its surface, its border and its title. -/
def panel (c : Canvas) (r : Rect) (surface : Style) (frame : Frame) (edge : Style)
    (title : Option Span) : Canvas :=
  let c := (c.style r surface).border r frame edge
  match title with
  | none => c
  | some title =>
    let room := r.width - 2
    if r.isEmpty then c
    else c.span ⟨r.x + 1, r.y, min title.columns room, 1⟩ title

/-- Draws a button: its border and its label. -/
def button (c : Canvas) (r : Rect) (label : String) (s edge : Style) : Canvas :=
  ((c.style r s).border r .angular edge).centred r.inside ⟨label, .plain⟩

end Canvas

end McpConsole.Screen
