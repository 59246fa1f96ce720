import McpConsole.Screen.Color

/-!
# Styles

What is said about the look of a piece of the screen. A style says nothing about what it leaves
out: on top of another style it changes only what it says.
-/

namespace McpConsole.Screen

/-- What is said about the look of a piece of the screen. -/
structure Style where
  foreground : Option Color
  background : Option Color
  /-- Whether bold type is asked for. -/
  bold : Bool
  /-- Whether dim type is asked for. -/
  dim : Bool
  deriving DecidableEq, Repr, Inhabited

namespace Style

/-- The style that says nothing. -/
def plain : Style := default

/-- The style of a text colour. -/
def color (c : Color) : Style :=
  { plain with foreground := some c }

/-- The style with a background. -/
def on (s : Style) (c : Color) : Style :=
  { s with background := some c }

/-- The style in bold type. -/
def strong (s : Style) : Style :=
  { s with bold := true }

end Style

end McpConsole.Screen
