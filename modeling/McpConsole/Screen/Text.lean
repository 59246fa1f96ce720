import McpConsole.Screen.Style
import McpConsole.Text.Blank
import McpConsole.Text.Cluster
import McpConsole.Text.Width

/-!
# Styled text

Text as it comes on the screen: glyphs, each a cluster in a style, in spans of one style and lines
of spans. `wrap` breaks a line into lines of a width at its blanks, and `cutLine` keeps what fits
into a width.
-/

namespace McpConsole.Screen

open McpConsole.Text

/-- A cluster in a style, with the columns that it takes. -/
structure Glyph where
  symbol : String
  width : Nat
  isBlank : Bool
  style : Style
  deriving DecidableEq, Repr

/-- A text in a style. -/
structure Span where
  text : String
  style : Style
  deriving DecidableEq, Repr

/-- A line of spans. -/
abbrev Line := List Span

/-- Whether a character is a control character. -/
def isControl (c : Char) : Bool :=
  let n := c.toNat
  n < 0x20 || (0x7F ≤ n && n < 0xA0)

/-- Whether a cluster is a place where a line may be broken: white space that is not bound to its
neighbours, or the mark for such a place. -/
def isBreakable (cluster : List Char) : Bool :=
  cluster == ['\u200B'] || (cluster.all isBlank && cluster != ['\u00A0'])

namespace Glyph

/-- The glyph of a cluster. -/
def ofCluster (style : Style) (cluster : List Char) : Glyph :=
  ⟨String.ofList cluster, Width.columns cluster, isBreakable cluster, style⟩

/-- The columns of a row of glyphs. -/
def columns (glyphs : List Glyph) : Nat :=
  (glyphs.map Glyph.width).foldr (· + ·) 0

end Glyph

namespace Span

/-- The glyphs of a text; control characters have none. -/
def glyphs (s : Span) : List Glyph :=
  ((Cluster.clusters s.text.toList).filter fun cluster => !cluster.any isControl).map
    (Glyph.ofCluster s.style)

/-- The columns of a text, for which a control character counts too. -/
def columns (s : Span) : Nat :=
  Width.columns s.text.toList

end Span

namespace Line

/-- The glyphs of a line. -/
def glyphs (line : Line) : List Glyph :=
  line.flatMap Span.glyphs

end Line

/-! ### Breaking lines -/

/-- As many glyphs of a line as fit into a width; those wider than all of it are left out. -/
def cutLine (width : Nat) : List Glyph → Nat → List Glyph
  | [], _ => []
  | g :: gs, used =>
    if width < g.width then cutLine width gs used
    else if width < used + g.width then []
    else g :: cutLine width gs (used + g.width)

/-- A line that is being broken. -/
structure Wrapping where
  /-- The lines that are complete. -/
  done : List (List Glyph)
  /-- What the present line has for certain. -/
  line : List Glyph
  /-- The blanks after it. -/
  blanks : List Glyph
  /-- The word after the blanks. -/
  word : List Glyph
  /-- Whether the last glyph belongs to a word. -/
  inWord : Bool
  deriving DecidableEq, Repr

namespace Wrapping

/-- Nothing is broken yet. -/
def start : Wrapping := ⟨[], [], [], [], false⟩

/-- The word and the blanks before it come to the present line; blanks at its beginning are
dropped if lines are trimmed. -/
def takeWord (trim : Bool) (w : Wrapping) : Wrapping :=
  let blanks := if w.line.isEmpty && trim then [] else w.blanks
  { w with line := w.line ++ blanks ++ w.word, blanks := [], word := [] }

/-- Whether the word is complete in front of a glyph. -/
def endsWord (width : Nat) (trim : Bool) (w : Wrapping) (g : Glyph) : Bool :=
  let word := Glyph.columns w.word
  let blanks := Glyph.columns w.blanks
  let overflows :=
    if trim then width < word + g.width || width < blanks + g.width
    else width < word + blanks + g.width
  (w.inWord && g.isBlank) || (w.line.isEmpty && overflows)

/-- Whether the present line is complete in front of a glyph. -/
def endsLine (width : Nat) (w : Wrapping) (g : Glyph) : Bool :=
  let line := Glyph.columns w.line
  width ≤ line ||
    (0 < g.width && width ≤ line + Glyph.columns w.blanks + Glyph.columns w.word)

/-- The blanks without those that fit into the rest of a line. -/
def dropFitting : Nat → List Glyph → List Glyph
  | _, [] => []
  | rest, g :: gs => if g.width ≤ rest then dropFitting (rest - g.width) gs else g :: gs

/-- The glyph comes after the blanks or the word. -/
def push (w : Wrapping) (g : Glyph) : Wrapping :=
  if g.isBlank then { w with blanks := w.blanks ++ [g], inWord := false }
  else { w with word := w.word ++ [g], inWord := true }

/-- One more glyph. -/
def step (width : Nat) (trim : Bool) (w : Wrapping) (g : Glyph) : Wrapping :=
  if width < g.width then w
  else
    let w := if w.endsWord width trim g then w.takeWord trim else w
    if w.endsLine width g then
      let blanks := dropFitting (width - Glyph.columns w.line) w.blanks
      let w := { w with done := w.done ++ [w.line], line := [], blanks }
      if g.isBlank && blanks.isEmpty then w else w.push g
    else w.push g

/-- The lines once nothing more comes. -/
def finish (trim : Bool) (w : Wrapping) : List (List Glyph) :=
  let onlyBlanks := w.line.isEmpty && w.word.isEmpty && !w.blanks.isEmpty
  let done := if onlyBlanks then w.done ++ [[]] else w.done
  let line := (w.takeWord trim).line
  let lines := if line.isEmpty then done else done ++ [line]
  if lines.isEmpty then [[]] else lines

end Wrapping

/-- A line broken into lines of a width. -/
def wrap (width : Nat) (trim : Bool) (glyphs : List Glyph) : List (List Glyph) :=
  (glyphs.foldl (Wrapping.step width trim) .start).finish trim

end McpConsole.Screen
