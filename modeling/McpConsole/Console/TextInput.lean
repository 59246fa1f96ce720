import McpConsole.Text.Blank
import McpConsole.Text.Width

/-!
# A line of text under the cursor

A text that is being edited. The cursor is kept as an offset in octets of the text's encoding, as
the terminal's line editors do; every operation leaves it between two characters. `before` and
`after` are the two parts of the text at the cursor, and each operation is given by what it does
to them.
-/

namespace McpConsole.Console

open McpConsole.Text

/-- The octets of a text's encoding. -/
def octets (cs : List Char) : Nat :=
  (cs.map Char.utf8Size).foldr (· + ·) 0

/-- The characters of a text that end within its first octets, and the rest. -/
def splitAtOctet : Nat → List Char → List Char × List Char
  | _, [] => ([], [])
  | offset, c :: cs =>
    if c.utf8Size ≤ offset then
      let parts := splitAtOctet (offset - c.utf8Size) cs
      (c :: parts.1, parts.2)
    else ([], c :: cs)

/-- A line of text that is being edited. -/
structure TextInput where
  text : List Char
  /-- The octets of the text before the cursor. -/
  cursor : Nat
  deriving DecidableEq, Repr, Inhabited

namespace TextInput

/-- A text with the cursor at its end. -/
def ofText (text : String) : TextInput :=
  ⟨text.toList, octets text.toList⟩

/-- What stands before the cursor. -/
def before (t : TextInput) : List Char :=
  (splitAtOctet t.cursor t.text).1

/-- What stands after the cursor. -/
def after (t : TextInput) : List Char :=
  (splitAtOctet t.cursor t.text).2

/-- The text as a string. -/
def content (t : TextInput) : String :=
  String.ofList t.text

/-- Whether the text holds nothing but blanks. -/
def isBlank (t : TextInput) : Bool :=
  t.text.all Text.isBlank

/-- The text without the blanks around it, unless nothing else is there. -/
def value? (t : TextInput) : Option String :=
  trimmedNonBlank (some t.content)

/-- The terminal columns of the text before the cursor. -/
def column (t : TextInput) : Nat :=
  Width.columns t.before

/-- Moves the cursor over the character before it. -/
def left (t : TextInput) : TextInput :=
  match t.before.getLast? with
  | some c => { t with cursor := t.cursor - c.utf8Size }
  | none => t

/-- Moves the cursor over the character after it. -/
def right (t : TextInput) : TextInput :=
  match t.after.head? with
  | some c => { t with cursor := t.cursor + c.utf8Size }
  | none => t

/-- Moves the cursor to the beginning. -/
def home (t : TextInput) : TextInput :=
  { t with cursor := 0 }

/-- Moves the cursor to the end. -/
def toEnd (t : TextInput) : TextInput :=
  { t with cursor := octets t.text }

/-- Puts a character before the cursor. -/
def insert (t : TextInput) (c : Char) : TextInput :=
  ⟨t.before ++ c :: t.after, t.cursor + c.utf8Size⟩

/-- Takes away the character before the cursor. -/
def backspace (t : TextInput) : TextInput :=
  match t.before.getLast? with
  | some c => ⟨t.before.dropLast ++ t.after, t.cursor - c.utf8Size⟩
  | none => t

/-- Takes away the character after the cursor. -/
def delete (t : TextInput) : TextInput :=
  ⟨t.before ++ t.after.tail, t.cursor⟩

end TextInput

end McpConsole.Console
