import McpConsole.Text.Normal.Table
import McpConsole.Text.Ranges

/-!
# The composed form of a text

The same text can be written with characters that carry their marks or with characters followed by
marks. `compose` gives the one form in which every character carries what it can: characters are
taken apart, marks are put in the order of their classes, and what belongs together is put
together again.
-/

namespace McpConsole.Text.Normal

/-- The class of a mark; other characters have class zero. -/
def classOf (c : Char) : Nat :=
  ((classRanges.find? fun range => range.1 ≤ c.toNat && c.toNat ≤ range.2.1).map (·.2.2)).getD 0

/-- The first precomposed Hangul syllable, and the first of its parts of each kind. -/
def syllableBase : Nat := 0xAC00
/-- The first leading consonant. -/
def leadBase : Nat := 0x1100
/-- The first vowel. -/
def vowelBase : Nat := 0x1161
/-- The character before the first trailing consonant. -/
def trailBase : Nat := 0x11A7

/-- Whether a character is a precomposed Hangul syllable. -/
def isSyllable (n : Nat) : Bool :=
  syllableBase ≤ n && n < syllableBase + 19 * 21 * 28

/-- The parts of a precomposed Hangul syllable. -/
def syllableParts (n : Nat) : List Char :=
  let index := n - syllableBase
  let trail := index % 28
  Char.ofNat (leadBase + index / 588) :: Char.ofNat (vowelBase + index % 588 / 28) ::
    (if trail = 0 then [] else [Char.ofNat (trailBase + trail)])

/-- The parts of a character, taken apart as often as the first number says. No character can be
taken apart more than four times. -/
def parts : Nat → Char → List Char
  | 0, c => [c]
  | depth + 1, c =>
    let n := c.toNat
    if n < 0xC0 then [c]
    else if isSyllable n then syllableParts n
    else
      match pairs.find? fun entry => entry.1 == n with
      | some (_, first, second) => parts depth (Char.ofNat first) ++ parts depth (Char.ofNat second)
      | none =>
        match singles.lookup n with
        | some other => parts depth (Char.ofNat other)
        | none => [c]

/-- A character put behind a reversed text: a mark goes before the marks of greater classes. -/
def place (c : Char) : List Char → List Char
  | [] => [c]
  | d :: ds =>
    if classOf c ≠ 0 ∧ classOf c < classOf d then d :: place c ds else c :: d :: ds

/-- The text with all its characters taken apart, and marks in the order of their classes. -/
def decompose (cs : List Char) : List Char :=
  ((cs.flatMap (parts 4)).foldl (fun done c => place c done) []).reverse

/-- The character that is the same as two others. -/
def join? (first second : Char) : Option Char :=
  let a := first.toNat
  let b := second.toNat
  if leadBase ≤ a ∧ a < leadBase + 19 ∧ vowelBase ≤ b ∧ b < vowelBase + 21 then
    some (Char.ofNat (syllableBase + (a - leadBase) * 588 + (b - vowelBase) * 28))
  else if isSyllable a ∧ (a - syllableBase) % 28 = 0 ∧ trailBase < b ∧ b < trailBase + 28 then
    some (Char.ofNat (a + (b - trailBase)))
  else
    (pairs.find? fun entry =>
      entry.2.1 == a && entry.2.2 == b && !inRanges excludedRanges entry.1).map
        fun entry => Char.ofNat entry.1

/-- A text that is being composed, in reverse order: what is done, the character that may still
take up marks, and the marks behind it that it could not take up. -/
structure Draft where
  done : List Char
  base : Option Char
  marks : List Char

/-- The draft with one character more. A mark is taken up unless one of its own class or a greater
one stands between. -/
def Draft.push (draft : Draft) (c : Char) : Draft :=
  let start : Draft := ⟨draft.marks ++ draft.base.toList ++ draft.done, some c, []⟩
  match draft.base with
  | none => if classOf c = 0 then start else { draft with done := c :: draft.done }
  | some base =>
    let isFree := match draft.marks with
      | [] => true
      | mark :: _ => classOf mark < classOf c
    match if isFree then join? base c else none with
    | some joined => { draft with base := some joined }
    | none => if classOf c = 0 then start else { draft with marks := c :: draft.marks }

/-- The text with every character carrying what it can. -/
def compose (cs : List Char) : List Char :=
  if cs.all fun c => c.toNat < 0xC0 then cs
  else
    let draft := (decompose cs).foldl Draft.push ⟨[], none, []⟩
    (draft.marks ++ draft.base.toList ++ draft.done).reverse

end McpConsole.Text.Normal
