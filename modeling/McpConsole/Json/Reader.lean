import McpConsole.Json.Node

/-!
# The reader of JSON

The reader takes a text one character at a time. Its state is what it expects next and the stack
of the arrays and objects that are open, so that nesting has no limit. `step` says what a
character does to the state, `run` is the fold of `step` over a text, and a text is read if the run
ends behind one value.

A numeral ends only where the next character shows it, so this character is given to the state
that the finished numeral leads to.
-/

namespace McpConsole.Json

/-- An open array with the items before the present one, or an open object with the members before
it and its key. Both are in reverse order. -/
inductive Frame where
  | array (before : List Node)
  | object (before : List (Option String × Node)) (key : Option String)
  deriving Repr

namespace Reader

/-- A string that is being read: its characters in reverse order, whether a surrogate without its
pair has occurred, and what of an escape has been read. -/
structure Text where
  before : List Char
  isBroken : Bool
  deriving Repr

/-- Where in a string the reader is. -/
inductive Escape where
  /-- In the text. -/
  | none
  /-- Behind a backslash. -/
  | begun
  /-- Within the four digits of a code unit: how many are left and their value so far. The high
  surrogate before it is given if there is one. -/
  | unit (high : Option Nat) (left value : Nat)
  /-- Behind a high surrogate. -/
  | high (unit : Nat)
  /-- Behind a high surrogate and a backslash. -/
  | highBegun (unit : Nat)
  deriving Repr

/-- Where in a numeral the reader is. -/
inductive Part where
  /-- Behind the sign. -/
  | sign
  /-- Behind a leading zero. -/
  | zero
  /-- Within the digits before the point. -/
  | whole
  /-- Behind the point. -/
  | point
  /-- Within the digits after the point. -/
  | fraction
  /-- Behind the letter of the exponent. -/
  | letter
  /-- Behind the sign of the exponent. -/
  | exponentSign
  /-- Within the digits of the exponent. -/
  | exponent
  deriving DecidableEq, Repr

/-- What the reader expects. -/
inductive Mode where
  /-- A value. -/
  | value
  /-- A value or the end of an array. -/
  | first
  /-- The first key of an object or its end. -/
  | member
  /-- A key. -/
  | key
  /-- The colon after a key. -/
  | colon (key : Option String)
  /-- The rest of a string, which is a key or a value. -/
  | string (isKey : Bool) (text : Text) (escape : Escape)
  /-- The rest of a numeral. -/
  | numeral (n : Numeral) (part : Part)
  /-- The rest of a word, which stands for a value. -/
  | word (rest : List Char) (node : Node)
  /-- A comma or the end of what is open; the value just read, if nothing is. -/
  | after (node : Node)
  deriving Repr

/-- What is expected, and what is open. -/
structure State where
  mode : Mode
  frames : List Frame
  deriving Repr

/-- The blanks that may stand between parts. -/
def isSpace (c : Char) : Bool :=
  c == ' ' || c == '\n' || c == '\t' || c == '\r'

/-- The value of a hexadecimal digit. -/
def hexValue? (c : Char) : Option Nat :=
  if '0' ≤ c ∧ c ≤ '9' then some (c.toNat - '0'.toNat)
  else if 'a' ≤ c ∧ c ≤ 'f' then some (c.toNat - 'a'.toNat + 10)
  else if 'A' ≤ c ∧ c ≤ 'F' then some (c.toNat - 'A'.toNat + 10)
  else none

/-- The character that an escape of one letter stands for. -/
def escaped? (c : Char) : Option Char :=
  if c = '"' ∨ c = '\\' ∨ c = '/' then some c
  else if c = 'b' then some '\u0008'
  else if c = 'f' then some '\u000C'
  else if c = 'n' then some '\n'
  else if c = 'r' then some '\r'
  else if c = 't' then some '\t'
  else none

/-- The text with one character more. -/
def Text.push (t : Text) (c : Char) : Text :=
  { t with before := c :: t.before }

/-- The text after a surrogate without its pair. -/
def Text.break (t : Text) : Text :=
  { t with isBroken := true }

/-- What the text means, unless a surrogate without its pair has occurred. -/
def Text.content (t : Text) : Option String :=
  if t.isBroken then none else some (String.ofList t.before.reverse)

/-- Whether a code unit is the first half of a pair. -/
def isHigh (unit : Nat) : Bool :=
  0xD800 ≤ unit && unit < 0xDC00

/-- Whether a code unit is the second half of a pair. -/
def isLow (unit : Nat) : Bool :=
  0xDC00 ≤ unit && unit < 0xE000

/-- The text and the place in it after a whole code unit, which may complete a pair. -/
def Text.unit (t : Text) (high : Option Nat) (unit : Nat) : Text × Escape :=
  match high with
  | some first =>
    if isLow unit then
      (t.push (Char.ofNat (0x10000 + (first - 0xD800) * 0x400 + (unit - 0xDC00))), .none)
    else if isHigh unit then (t.break, .high unit)
    else (t.break.push (Char.ofNat unit), .none)
  | none =>
    if isHigh unit then (t, .high unit)
    else if isLow unit then (t.break, .none)
    else (t.push (Char.ofNat unit), .none)

/-- A value that is complete: it is put into what is open. -/
def deliver (node : Node) (frames : List Frame) : State :=
  match frames with
  | [] => ⟨.after node, []⟩
  | .array before :: rest => ⟨.after node, .array (node :: before) :: rest⟩
  | .object before key :: rest => ⟨.after node, .object ((key, node) :: before) key :: rest⟩

/-- The end of an array. -/
def closeArray (frames : List Frame) : Option State :=
  match frames with
  | .array before :: rest => some (deliver (.array before.reverse) rest)
  | _ => none

/-- The end of an object. -/
def closeObject (frames : List Frame) : Option State :=
  match frames with
  | .object before _ :: rest => some (deliver (.object before.reverse) rest)
  | _ => none

/-- The end of a string. -/
def closeString (isKey : Bool) (text : Text) (frames : List Frame) : State :=
  if isKey then ⟨.colon text.content, frames⟩ else deliver (.string text.content) frames

/-- A character at the beginning of a value. -/
def beginValue (c : Char) (frames : List Frame) : Option State :=
  if isSpace c then some ⟨.value, frames⟩
  else if c = '"' then some ⟨.string false ⟨[], false⟩ .none, frames⟩
  else if c = '[' then some ⟨.first, .array [] :: frames⟩
  else if c = '{' then some ⟨.member, .object [] none :: frames⟩
  else if c = 'n' then some ⟨.word "ull".toList .null, frames⟩
  else if c = 't' then some ⟨.word "rue".toList (.bool true), frames⟩
  else if c = 'f' then some ⟨.word "alse".toList (.bool false), frames⟩
  else if c = '-' then some ⟨.numeral ⟨true, [], none, none⟩ .sign, frames⟩
  else if c = '0' then some ⟨.numeral ⟨false, [c], none, none⟩ .zero, frames⟩
  else if c.isDigit then some ⟨.numeral ⟨false, [c], none, none⟩ .whole, frames⟩
  else none

/-- A character behind a value. -/
def stepAfter (c : Char) (node : Node) (frames : List Frame) : Option State :=
  if isSpace c then some ⟨.after node, frames⟩
  else if c = ',' then
    match frames with
    | .array _ :: _ => some ⟨.value, frames⟩
    | .object _ _ :: _ => some ⟨.key, frames⟩
    | [] => none
  else if c = ']' then closeArray frames
  else if c = '}' then closeObject frames
  else none

/-- A character of a string. -/
def stepString (c : Char) (isKey : Bool) (text : Text) (escape : Escape) (frames : List Frame) :
    Option State :=
  let inText (text : Text) : Option State :=
    if c = '"' then some (closeString isKey text frames)
    else if c = '\\' then some ⟨.string isKey text .begun, frames⟩
    else if c.toNat < 0x20 then none
    else some ⟨.string isKey (text.push c) .none, frames⟩
  match escape with
  | .none => inText text
  | .begun =>
    if c = 'u' then some ⟨.string isKey text (.unit none 4 0), frames⟩
    else (escaped? c).map fun c => ⟨.string isKey (text.push c) .none, frames⟩
  | .unit high left value =>
    (hexValue? c).map fun digit =>
      let value := 16 * value + digit
      if left ≤ 1 then
        let (text, escape) := text.unit high value
        ⟨.string isKey text escape, frames⟩
      else ⟨.string isKey text (.unit high (left - 1) value), frames⟩
  | .high unit =>
    if c = '\\' then some ⟨.string isKey text (.highBegun unit), frames⟩ else inText text.break
  | .highBegun unit =>
    if c = 'u' then some ⟨.string isKey text (.unit (some unit) 4 0), frames⟩
    else (escaped? c).map fun c => ⟨.string isKey (text.break.push c) .none, frames⟩

/-- A numeral with one digit more before its point. -/
def pushWhole (n : Numeral) (c : Char) : Numeral :=
  { n with whole := n.whole ++ [c] }

/-- A numeral with one digit more after its point. -/
def pushFraction (n : Numeral) (c : Char) : Numeral :=
  { n with fraction := some (n.fraction.getD [] ++ [c]) }

/-- A numeral with one digit more in its exponent. -/
def pushExponent (n : Numeral) (c : Char) : Numeral :=
  { n with exponent := n.exponent.map fun e => (e.1, e.2 ++ [c]) }

/-- A character of a numeral, or the first one behind it. -/
def stepNumeral (c : Char) (n : Numeral) (part : Part) (frames : List Frame) : Option State :=
  let stay (n : Numeral) (part : Part) : Option State := some ⟨.numeral n part, frames⟩
  let leave : Option State :=
    let state := deliver (.numeral n) frames
    stepAfter c (.numeral n) state.frames
  let isLetter := c == 'e' || c == 'E'
  match part with
  | .sign =>
    if c = '0' then stay (pushWhole n c) .zero
    else if c.isDigit then stay (pushWhole n c) .whole
    else none
  | .zero =>
    if c = '.' then stay n .point
    else if isLetter then stay { n with exponent := some (false, []) } .letter
    else if c.isDigit then none
    else leave
  | .whole =>
    if c.isDigit then stay (pushWhole n c) .whole
    else if c = '.' then stay n .point
    else if isLetter then stay { n with exponent := some (false, []) } .letter
    else leave
  | .point => if c.isDigit then stay (pushFraction n c) .fraction else none
  | .fraction =>
    if c.isDigit then stay (pushFraction n c) .fraction
    else if isLetter then stay { n with exponent := some (false, []) } .letter
    else leave
  | .letter =>
    if c = '+' then stay n .exponentSign
    else if c = '-' then stay { n with exponent := some (true, []) } .exponentSign
    else if c.isDigit then stay (pushExponent n c) .exponent
    else none
  | .exponentSign => if c.isDigit then stay (pushExponent n c) .exponent else none
  | .exponent => if c.isDigit then stay (pushExponent n c) .exponent else leave

/-- What a character does to the state. -/
def step (state : State) (c : Char) : Option State :=
  let frames := state.frames
  match state.mode with
  | .value => beginValue c frames
  | .first =>
    if isSpace c then some state
    else if c = ']' then closeArray frames
    else beginValue c frames
  | .member =>
    if isSpace c then some state
    else if c = '}' then closeObject frames
    else if c = '"' then some ⟨.string true ⟨[], false⟩ .none, frames⟩
    else none
  | .key =>
    if isSpace c then some state
    else if c = '"' then some ⟨.string true ⟨[], false⟩ .none, frames⟩
    else none
  | .colon key =>
    if isSpace c then some state
    else if c = ':' then
      match frames with
      | .object before _ :: rest => some ⟨.value, .object before key :: rest⟩
      | _ => none
    else none
  | .string isKey text escape => stepString c isKey text escape frames
  | .numeral n part => stepNumeral c n part frames
  | .word [] _ => none
  | .word (w :: rest) node =>
    if c ≠ w then none
    else if rest.isEmpty then some (deliver node frames)
    else some ⟨.word rest node, frames⟩
  | .after node => stepAfter c node frames

/-- What a text does to the state. -/
def run (state : State) (cs : List Char) : Option State :=
  cs.foldlM step state

/-- The value that the reader stands behind, if nothing is open. -/
def finish (state : State) : Option Node :=
  match state.mode, state.frames with
  | .after node, [] => some node
  | .numeral n part, [] =>
    if part = .zero ∨ part = .whole ∨ part = .fraction ∨ part = .exponent then some (.numeral n)
    else none
  | _, _ => none

end Reader

/-- The syntax of a text that is well formed. -/
def read? (cs : List Char) : Option Node :=
  (Reader.run ⟨.value, []⟩ cs).bind Reader.finish

end McpConsole.Json
