import McpConsole.Json.Value

/-!
# The syntax of JSON

What the reader makes of a text before anything is asked about its meaning: numerals as they were
written, and strings that may hold half of a surrogate pair, which has no meaning as text. A part
of a text that nobody asks about only has to be well formed.
-/

namespace McpConsole.Json

/-- A numeral: its sign, the digits before the point, the digits after it, and the sign and the
digits of its exponent. -/
structure Numeral where
  isNegative : Bool
  whole : List Char
  fraction : Option (List Char)
  exponent : Option (Bool × List Char)
  deriving DecidableEq, Repr

/-- A well-formed JSON text. A string is `none` if it holds an unpaired surrogate. -/
inductive Node where
  | null
  | bool (b : Bool)
  | numeral (n : Numeral)
  | string (s : Option String)
  | array (items : List Node)
  | object (members : List (Option String × Node))
  deriving Repr

end McpConsole.Json
