/-!
# Rectangles

Areas of a screen in character cells. Positions on a screen are below `limit`.
-/

namespace McpConsole.Screen

/-- The positions on a screen are below this number. -/
def limit : Nat := 65535

/-- An area of a screen. -/
structure Rect where
  x : Nat
  y : Nat
  width : Nat
  height : Nat
  deriving DecidableEq, Repr, Inhabited

namespace Rect

/-- The rectangle of four numbers, cut to the positions that there are. -/
def within (x y width height : Nat) : Rect :=
  ⟨x, y, min width (limit - x), min height (limit - y)⟩

/-- The first column right of the rectangle. -/
def right (r : Rect) : Nat :=
  r.x + r.width

/-- The first row below the rectangle. -/
def bottom (r : Rect) : Nat :=
  r.y + r.height

/-- Whether no cell lies in the rectangle. -/
def isEmpty (r : Rect) : Bool :=
  r.width == 0 || r.height == 0

/-- Whether a cell lies in the rectangle. -/
def contains (r : Rect) (column row : Nat) : Bool :=
  r.x ≤ column && column < r.right && r.y ≤ row && row < r.bottom

/-- The common part of two rectangles; without one, an empty rectangle at the greater corner. -/
def intersect (r s : Rect) : Rect :=
  let x := max r.x s.x
  let y := max r.y s.y
  ⟨x, y, min r.right s.right - x, min r.bottom s.bottom - y⟩

/-- The rectangle without a border one cell wide. -/
def inside (r : Rect) : Rect :=
  ⟨min (r.x + 1) r.right, min (r.y + 1) r.bottom, r.width - 2, r.height - 2⟩

/-- The rectangle without its first rows. -/
def dropRows (r : Rect) (n : Nat) : Rect :=
  ⟨r.x, r.y + n, r.width, r.height - n⟩

/-- A number between two bounds, of which the upper one is stronger. -/
def clamp (n low high : Nat) : Nat :=
  min (max n low) high

/-- A part of a length in percent, in sixteen bits. -/
def percent (length part : Nat) : Nat :=
  length * part / 100 % (limit + 1)

/-- The rectangle in the middle of another one that takes a part of it in percent, but at least
and at most a given width and height, and never more than there is. -/
def centred (r : Rect) (percentX percentY : Nat) (least most : Nat × Nat) : Rect :=
  let width := min (clamp (percent r.width percentX) least.1 most.1) r.width
  let height := min (clamp (percent r.height percentY) least.2 most.2) r.height
  ⟨r.x + (r.width - width) / 2, r.y + (r.height - height) / 2, width, height⟩

end Rect

end McpConsole.Screen
