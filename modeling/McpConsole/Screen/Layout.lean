import McpConsole.Screen.Rect

/-!
# Dividing an area

An area is divided into parts side by side, each of which asks for a share of the length. When all
shares can be met, what is left over goes to the parts that can grow, by their weights, and the
borders between parts are rounded to whole cells. When they cannot be met, the parts that must not
shrink come first.
-/

namespace McpConsole.Screen

/-- What a part of an area asks for. -/
inductive Share where
  /-- A length. -/
  | exactly (length : Nat)
  /-- A length and whatever is left over. -/
  | atLeast (length : Nat)
  /-- A portion of what is left over. -/
  | fill (weight : Nat)
  deriving DecidableEq, Repr

namespace Share

/-- The length that a part needs. -/
def floor : Share → Nat
  | .exactly length => length
  | .atLeast length => length
  | .fill _ => 0

/-- The weight of a part in what is left over. -/
def weight : Share → Nat
  | .exactly _ => 0
  | .atLeast _ => 1
  | .fill weight => weight

/-- The part of a surplus for the first weights, rounded to the nearest whole number. -/
def grown (surplus weight total : Nat) : Nat :=
  if total = 0 then 0 else (2 * surplus * weight + total) / (2 * total)

/-- The parts with their first positions and lengths when all shares can be met: `start` and
`weight` are the lengths and weights of the parts before. -/
def place (spacing surplus total : Nat) : Nat → Nat → List Share → List (Nat × Nat)
  | _, _, [] => []
  | start, weight, share :: shares =>
    let stop := start + share.floor
    let after := weight + share.weight
    let first := start + grown surplus weight total
    let last := stop + grown surplus after total
    (first, last - first) :: place spacing surplus total (stop + spacing) after shares

/-- The lengths when the shares cannot be met: first of the parts that must not shrink, then of
the others. -/
def squeeze (length : Nat) (shares : List Share) : List Nat :=
  let give (wanted : Share → Nat) (state : Nat × List Nat) (share : Share) : Nat × List Nat :=
    let size := min (wanted share) state.1
    (state.1 - size, state.2 ++ [size])
  let firm := shares.foldl (give fun | .atLeast n => n | _ => 0) (length, [])
  let rest := shares.foldl (give fun | .exactly n => n | _ => 0) (firm.1, [])
  List.zipWith (· + ·) firm.2 rest.2

/-- Lengths one after the other. -/
def stack : Nat → List Nat → List (Nat × Nat)
  | _, [] => []
  | start, size :: sizes => (start, size) :: stack (start + size) sizes

/-- The parts of a length with their first positions and lengths. -/
def divide (length spacing : Nat) (shares : List Share) : List (Nat × Nat) :=
  let needed := (shares.map floor).foldr (· + ·) 0 + spacing * (shares.length - 1)
  if needed ≤ length then
    place spacing (length - needed) ((shares.map weight).foldr (· + ·) 0) 0 0 shares
  else stack 0 (squeeze length shares)

end Share

namespace Rect

/-- The parts of a rectangle from the top. -/
def rows (r : Rect) (shares : List Share) : List Rect :=
  (Share.divide r.height 0 shares).map fun (start, size) => ⟨r.x, r.y + start, r.width, size⟩

/-- The parts of a rectangle from the left, some columns apart. -/
def columns (r : Rect) (spacing : Nat) (shares : List Share) : List Rect :=
  (Share.divide r.width spacing shares).map fun (start, size) =>
    ⟨r.x + start, r.y, size, r.height⟩

end Rect

end McpConsole.Screen
