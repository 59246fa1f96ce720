import McpConsole.Number.Binary

/-!
# JSON values

What a JSON text means. An object keeps its members in the order in which they were written, and
a numeral is a whole number when it can be one in 64 bits, otherwise a floating point number.
-/

namespace McpConsole.Json

open McpConsole.Number (Binary)

/-- A number: a natural one below `2 ^ 64`, a negative one down to `-2 ^ 63`, or a floating point
number, which keeps the sign of a zero. -/
inductive Number where
  | nat (n : Nat)
  | negative (n : Nat)
  | float (isNegative : Bool) (size : Binary)
  deriving DecidableEq, Repr

/-- A JSON value. -/
inductive Value where
  | null
  | bool (b : Bool)
  | number (n : Number)
  | string (s : String)
  | array (items : List Value)
  | object (members : List (String × Value))
  deriving Repr

/-- A string or nothing, as a value. -/
def Value.ofOption (s : Option String) : Value :=
  match s with
  | none => .null
  | some s => .string s

/-- The value of the last member of a list with a key. -/
def lastMember? (key : String) (members : List (String × Value)) : Option Value :=
  (members.reverse.find? fun member => member.1 == key).map Prod.snd

end McpConsole.Json
