import McpConsole.Proofs.Console.Fields
import Mathlib.Data.List.Basic
import Mathlib.Data.Nat.PSub

/-!
# A line of text in two halves

The cursor of a line of text is an offset in octets, while what is typed and taken away are characters
of one to four octets, and a text can be cut only between two characters. That the cursor always
stands there is seen from the `Halves` of the line: the characters before the cursor and those after
it, which are lists and know of no offset.

* `Halves.line` is the line of text that two halves make. A change of the line is the same change of
  its halves (`Halves.apply_line`), and so is any number of them (`Halves.edited_line`).
* `Edit.make?` makes a change by offsets alone: the text is cut at those that are worked out (`cut?`,
  `without?`), and there is no result if one of them lies within a character, behind the end or before
  the beginning. For a line that two halves make there always is one (`Halves.make?_line`).

Both are put together in `TextInput.edited_isHalved`. A text may be of any length here; no offset is
ever more than its octets.
-/

namespace McpConsole.Console

/-! ### Offsets -/

@[simp] theorem octets_nil : octets [] = 0 :=
  rfl

@[simp] theorem octets_cons (c : Char) (cs : List Char) :
    octets (c :: cs) = c.utf8Size + octets cs := by
  rw [octets, List.map_cons, List.foldr_cons, octets]

@[simp] theorem octets_append (first second : List Char) :
    octets (first ++ second) = octets first + octets second := by
  induction first with
  | nil => simp
  | cons c cs ih => simp [ih, Nat.add_assoc]

theorem octets_eq (cs : List Char) : octets cs = (String.ofList cs).utf8ByteSize := by
  induction cs with
  | nil => rfl
  | cons c cs ih =>
    rw [← List.singleton_append, octets_append, String.ofList_append, String.utf8ByteSize_append, ih]
    simp

/-- A text is taken apart where it was put together. -/
theorem splitAtOctet_append (first second : List Char) :
    splitAtOctet (octets first) (first ++ second) = (first, second) := by
  induction first with
  | nil =>
    cases second with
    | nil => rfl
    | cons c cs =>
      have hc := c.utf8Size_pos
      rw [octets_nil, List.nil_append, splitAtOctet, if_neg (by omega)]
  | cons c cs ih => simp [splitAtOctet, ih]

/-! ### Halves -/

/-- The characters of a text before the cursor, and those after it. -/
structure Halves where
  before : List Char
  after : List Char
  deriving DecidableEq, Repr

namespace Halves

/-- A text with the cursor at its end. -/
def ofText (text : String) : Halves :=
  ⟨text.toList, []⟩

/-- Two halves after a change. At the beginning there is no character to the left, and at the end
none to the right. -/
def apply (h : Halves) : Edit → Halves
  | .left => ⟨h.before.dropLast, h.before.getLast?.toList ++ h.after⟩
  | .right => ⟨h.before ++ h.after.head?.toList, h.after.tail⟩
  | .home => ⟨[], h.before ++ h.after⟩
  | .toEnd => ⟨h.before ++ h.after, []⟩
  | .backspace => ⟨h.before.dropLast, h.after⟩
  | .delete => ⟨h.before, h.after.tail⟩
  | .insert c => ⟨h.before ++ [c], h.after⟩

/-- Two halves after a number of changes. -/
def edited (h : Halves) (edits : List Edit) : Halves :=
  edits.foldl apply h

/-- The line of text that two halves make. -/
def line (h : Halves) : TextInput :=
  ⟨h.before ++ h.after, octets h.before⟩

@[simp] theorem line_text (h : Halves) : h.line.text = h.before ++ h.after :=
  rfl

@[simp] theorem line_cursor (h : Halves) : h.line.cursor = octets h.before :=
  rfl

theorem content_line (h : Halves) : h.line.content = String.ofList (h.before ++ h.after) :=
  rfl

theorem eq_line_iff {h : Halves} {t : TextInput} :
    t = h.line ↔ t.text = h.before ++ h.after ∧ t.cursor = octets h.before := by
  cases t
  simp [line]

theorem line_ofText (text : String) : (ofText text).line = TextInput.ofText text := by
  simp [line, ofText, TextInput.ofText]

@[simp] theorem before_line (h : Halves) : h.line.before = h.before := by
  simp [TextInput.before, splitAtOctet_append]

@[simp] theorem after_line (h : Halves) : h.line.after = h.after := by
  simp [TextInput.after, splitAtOctet_append]

/-- A change of the line is the same change of its halves. -/
theorem apply_line (h : Halves) (e : Edit) : e.apply h.line = (h.apply e).line := by
  rw [eq_line_iff]
  -- A move to the left and a backspace turn on whether the first half ends in a character, a move
  -- to the right on whether the second one begins with one.
  cases e with
  | left =>
    rcases h.before.eq_nil_or_concat' with hbefore | ⟨before, c, hbefore⟩ <;>
      simp [Edit.apply, TextInput.left, apply, hbefore]
  | right =>
    cases hafter : h.after <;> simp [Edit.apply, TextInput.right, apply, hafter]
  | home => simp [Edit.apply, TextInput.home, apply]
  | toEnd => simp [Edit.apply, TextInput.toEnd, apply]
  | backspace =>
    rcases h.before.eq_nil_or_concat' with hbefore | ⟨before, c, hbefore⟩ <;>
      simp [Edit.apply, TextInput.backspace, apply, hbefore]
  | delete => simp [Edit.apply, TextInput.delete, apply]
  | insert c => simp [Edit.apply, TextInput.insert, apply]

theorem edited_line (h : Halves) (edits : List Edit) :
    h.line.edited edits = (h.edited edits).line :=
  List.foldl_hom line apply_line

/-- What was typed last is taken back. -/
theorem backspace_insert (h : Halves) (c : Char) : (h.apply (.insert c)).apply .backspace = h := by
  simp [apply]

end Halves

/-! ### Changes by offsets -/

/-- A text before an offset and after it. There is no result if the offset lies within a character
or behind the end. -/
def cut? (text : String) (offset : Nat) : Option (String × String) :=
  if h : String.Pos.Raw.IsValid text ⟨offset⟩ then
    let place := text.pos ⟨offset⟩ h
    some ((text.sliceTo place).copy, (text.sliceFrom place).copy)
  else none

theorem cut?_eq_some_iff {text first second : String} {offset : Nat} :
    cut? text offset = some (first, second) ↔
      text = first ++ second ∧ offset = first.utf8ByteSize := by
  constructor
  · intro h
    unfold cut? at h
    split at h
    case isFalse => cases h
    case isTrue hvalid =>
      cases h
      exact ⟨String.sliceTo_append_sliceFrom.symm, by simp⟩
  · rintro ⟨rfl, rfl⟩
    have hvalid : String.Pos.Raw.IsValid (first ++ second) ⟨first.utf8ByteSize⟩ :=
      String.Pos.Raw.isValid_iff_exists_append.mpr ⟨first, second, rfl, rfl⟩
    have hsplits : ((first ++ second).pos ⟨first.utf8ByteSize⟩ hvalid).Splits first second :=
      ⟨rfl, String.offset_pos⟩
    obtain ⟨hfirst, hsecond⟩ := (String.Pos.splits _).eq hsplits
    rw [cut?, dif_pos hvalid]
    simp [hfirst, hsecond]

example : cut? "né" 2 = none := by decide

theorem cut?_ofList (first second : List Char) :
    cut? (String.ofList (first ++ second)) (octets first) =
      some (String.ofList first, String.ofList second) :=
  cut?_eq_some_iff.mpr ⟨String.ofList_append, octets_eq first⟩

/-- A text without what lies between two offsets. There is no result if the text cannot be cut at
both of them, or if the first is the larger one. -/
def without? (text : String) (start stop : Nat) : Option String := do
  guard (start ≤ stop)
  let (before, _) ← cut? text start
  let (_, after) ← cut? text stop
  return before ++ after

theorem without?_ofList (first middle last : List Char) :
    without? (String.ofList (first ++ middle ++ last)) (octets first) (octets (first ++ middle)) =
      some (String.ofList (first ++ last)) := by
  have hle : octets first ≤ octets (first ++ middle) := by simp
  have hstart := cut?_ofList first (middle ++ last)
  have hstop := cut?_ofList (first ++ middle) last
  rw [← List.append_assoc] at hstart
  rw [without?, guard, if_pos hle, hstart, hstop]
  exact congrArg some String.ofList_append.symm

namespace TextInput

variable (t : TextInput)

/-- Moves the cursor back by the octets of the character before it. -/
def left? : Option TextInput := do
  let (before, _) ← cut? t.content t.cursor
  match before.toList.getLast? with
  | some c => return { t with cursor := ← t.cursor.psub c.utf8Size }
  | none => return t

/-- Moves the cursor on by the octets of the character after it. -/
def right? : Option TextInput := do
  let (_, after) ← cut? t.content t.cursor
  match after.toList.head? with
  | some c => return { t with cursor := t.cursor + c.utf8Size }
  | none => return t

/-- Puts a character in at the cursor, and moves the cursor on by its octets. -/
def insert? (c : Char) : Option TextInput := do
  let (before, after) ← cut? t.content t.cursor
  return ⟨(before.push c ++ after).toList, t.cursor + c.utf8Size⟩

/-- Takes out the octets of the character before the cursor. -/
def backspace? : Option TextInput := do
  let (before, _) ← cut? t.content t.cursor
  match before.toList.getLast? with
  | some c =>
    let start ← t.cursor.psub c.utf8Size
    let text ← without? t.content start t.cursor
    return ⟨text.toList, start⟩
  | none => return t

/-- Takes out the octets of the character after the cursor. -/
def delete? : Option TextInput := do
  let (_, after) ← cut? t.content t.cursor
  match after.toList.head? with
  | some c =>
    let text ← without? t.content t.cursor (t.cursor + c.utf8Size)
    return ⟨text.toList, t.cursor⟩
  | none => return t

end TextInput

/-- A line of text after a change by offsets, if none of them is out of place. -/
def Edit.make? (t : TextInput) : Edit → Option TextInput
  | .left => t.left?
  | .right => t.right?
  | .home => some { t with cursor := 0 }
  | .toEnd => some { t with cursor := t.content.utf8ByteSize }
  | .backspace => t.backspace?
  | .delete => t.delete?
  | .insert c => t.insert? c

/-- A line of text after a number of changes by offsets, if none of them is out of place. -/
def TextInput.edited? (t : TextInput) (edits : List Edit) : Option TextInput :=
  edits.foldlM Edit.make? t

namespace Halves

variable (h : Halves)

theorem cut?_line :
    cut? h.line.content h.line.cursor = some (String.ofList h.before, String.ofList h.after) :=
  cut?_ofList h.before h.after

theorem left?_line : h.line.left? = some (h.apply .left).line := by
  rw [TextInput.left?, cut?_line]
  rcases h.before.eq_nil_or_concat' with hbefore | ⟨before, c, hbefore⟩
  · simp [apply, line, hbefore]
  · have hcursor : (octets before + c.utf8Size).psub c.utf8Size = some (octets before) :=
      Nat.psub_eq_some.mpr rfl
    simp [apply, line, hbefore, hcursor]

theorem right?_line : h.line.right? = some (h.apply .right).line := by
  rw [TextInput.right?, cut?_line]
  cases hafter : h.after <;> simp [apply, line, hafter]

theorem insert?_line (c : Char) : h.line.insert? c = some (h.apply (.insert c)).line := by
  rw [TextInput.insert?, cut?_line]
  simp [apply, line]

theorem backspace?_line : h.line.backspace? = some (h.apply .backspace).line := by
  rw [TextInput.backspace?, cut?_line]
  rcases h.before.eq_nil_or_concat' with hbefore | ⟨before, c, hbefore⟩
  · simp [apply, line, hbefore]
  · -- The offset worked out is the one before the last character, where the text can be cut again.
    have hlast : (String.ofList h.before).toList.getLast? = some c := by simp [hbefore]
    have hstart : h.line.cursor.psub c.utf8Size = some (octets before) :=
      Nat.psub_eq_some.mpr (by simp [hbefore])
    have htext : without? h.line.content (octets before) h.line.cursor =
        some (String.ofList (before ++ h.after)) := by
      rw [content_line, line_cursor, hbefore]
      exact without?_ofList before [c] h.after
    simp only [Option.bind_eq_bind, Option.bind_some, hlast, hstart, htext]
    simp [apply, line, hbefore]

theorem delete?_line : h.line.delete? = some (h.apply .delete).line := by
  rw [TextInput.delete?, cut?_line]
  cases hafter : h.after with
  | nil => simp [apply, line, hafter]
  | cons c after =>
    have hhead : (String.ofList (c :: after)).toList.head? = some c := by simp
    have hstop : h.line.cursor + c.utf8Size = octets (h.before ++ [c]) := by simp
    have htext : without? h.line.content h.line.cursor (h.line.cursor + c.utf8Size) =
        some (String.ofList (h.before ++ after)) := by
      rw [content_line, hafter, List.append_cons, hstop]
      exact without?_ofList h.before [c] after
    simp only [Option.bind_eq_bind, Option.bind_some, hhead, htext]
    simp [apply, line, hafter]

/-- No change by offsets goes wrong on a line that two halves make. -/
theorem make?_line (e : Edit) : e.make? h.line = some (h.apply e).line := by
  cases e with
  | left => exact h.left?_line
  | right => exact h.right?_line
  | home => simp [Edit.make?, apply, line]
  | toEnd =>
    rw [Edit.make?, content_line, ← octets_eq]
    simp [apply, line]
  | backspace => exact h.backspace?_line
  | delete => exact h.delete?_line
  | insert c => exact h.insert?_line c

theorem edited?_line (edits : List Edit) :
    h.line.edited? edits = some (h.edited edits).line := by
  induction edits generalizing h with
  | nil => rfl
  | cons e edits ih =>
    calc
      h.line.edited? (e :: edits) = (e.make? h.line).bind (·.edited? edits) := List.foldlM_cons
      _ = (h.apply e).line.edited? edits := by rw [make?_line, Option.bind_some]
      _ = some ((h.apply e).edited edits).line := ih (h.apply e)

end Halves

/-- **A line of text is its two halves.** Whatever is done to a text, it is what the same changes
make of the characters before the cursor and of those after it. The cursor stands between them at an
offset where the text can be cut, and none of the changes meets an offset that is out of place. What
is typed and at once taken back leaves no trace. -/
theorem TextInput.edited_isHalved (text : String) (edits : List Edit) :
    let t := (TextInput.ofText text).edited edits
    let h := (Halves.ofText text).edited edits
    t.text = h.before ++ h.after ∧
      t.cursor = (String.ofList h.before).utf8ByteSize ∧
      String.Pos.Raw.IsValid t.content ⟨t.cursor⟩ ∧
      (TextInput.ofText text).edited? edits = some t ∧
      ∀ c, (t.insert c).backspace = t := by
  intro t h
  have hline : t = h.line := by
    rw [← Halves.edited_line, Halves.line_ofText]
  obtain ⟨htext, hcursor⟩ := Halves.eq_line_iff.mp hline
  rw [octets_eq] at hcursor
  refine ⟨htext, hcursor, ?_, ?_, fun c => ?_⟩
  · rw [String.Pos.Raw.isValid_iff_exists_append]
    refine ⟨String.ofList h.before, String.ofList h.after, ?_, congrArg _ hcursor⟩
    rw [hline, Halves.content_line, String.ofList_append]
  · rw [hline, ← Halves.line_ofText, Halves.edited?_line]
  · rw [hline]
    calc
      (h.line.insert c).backspace = ((h.apply (.insert c)).apply .backspace).line := by
        rw [← Halves.apply_line, ← Halves.apply_line]
        rfl
      _ = h.line := by rw [Halves.backspace_insert]

example : ((TextInput.ofText "héllo").edited [.home, .right, .right, .backspace, .insert 'ë']) =
    ⟨['h', 'ë', 'l', 'l', 'o'], 3⟩ := by decide

end McpConsole.Console
