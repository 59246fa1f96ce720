import McpConsole.Json.Value
import McpConsole.Number.Shortest
import McpConsole.Text.Decimal

/-!
# JSON values as text

The compact form, without any blanks, and the indented form, one item or member a line. Only what
has to be escaped in a string is.
-/

namespace McpConsole.Json

open McpConsole.Text
open McpConsole.Number (Binary shortestDecimal double)

/-- A lower-case hexadecimal digit. -/
def hexDigit (n : Nat) : Char :=
  Nat.digitChar n

/-- A character as it stands in a string. -/
def escapeChar (c : Char) : List Char :=
  if c = '"' then ['\\', '"']
  else if c = '\\' then ['\\', '\\']
  else if c = '\u0008' then ['\\', 'b']
  else if c = '\u000C' then ['\\', 'f']
  else if c = '\n' then ['\\', 'n']
  else if c = '\r' then ['\\', 'r']
  else if c = '\t' then ['\\', 't']
  else if c.toNat < 0x20 then
    ['\\', 'u', '0', '0', hexDigit (c.toNat / 16), hexDigit (c.toNat % 16)]
  else [c]

/-- A string with its quotes. -/
def quoted (s : String) : List Char :=
  '"' :: s.toList.flatMap escapeChar ++ ['"']

/-- The text of a floating point number: the fewest digits that read back, with a point and at
least one place if the power of ten of its first digit is from -5 to 15, otherwise with an
exponent and its sign. -/
def sizeText (x : Binary) : List Char :=
  if x.mantissa = 0 then "0.0".toList
  else
    let shortest := shortestDecimal double x
    let digits := Decimal.digits shortest.digits
    let power := shortest.exponent
    if 0 ≤ power ∧ power ≤ 15 then
      let whole := power.toNat + 1
      let places := digits.drop whole
      digits.take whole ++ List.replicate (whole - digits.length) '0' ++ '.' ::
        (if places.isEmpty then ['0'] else places)
    else if -5 ≤ power ∧ power < 0 then
      "0.".toList ++ List.replicate ((-power).toNat - 1) '0' ++ digits
    else
      let places := digits.drop 1
      digits.take 1 ++ (if places.isEmpty then [] else '.' :: places) ++ 'e' ::
        (if power < 0 then '-' else '+') :: Decimal.digits power.natAbs

/-- The text of a number. -/
def Number.text : Number → List Char
  | .nat n => Decimal.digits n
  | .negative n => '-' :: Decimal.digits n
  | .float isNegative size => if isNegative then '-' :: sizeText size else sizeText size

mutual

/-- The compact text of a value. -/
def Value.compact : Value → List Char
  | .null => "null".toList
  | .bool b => if b then "true".toList else "false".toList
  | .number n => n.text
  | .string s => quoted s
  | .array items => '[' :: compactItems items ++ [']']
  | .object members => '{' :: compactMembers members ++ ['}']

/-- The compact texts of items with commas between them. -/
def compactItems : List Value → List Char
  | [] => []
  | [item] => item.compact
  | item :: items => item.compact ++ ',' :: compactItems items

/-- The compact texts of members with commas between them. -/
def compactMembers : List (String × Value) → List Char
  | [] => []
  | [(key, value)] => quoted key ++ ':' :: value.compact
  | (key, value) :: members => quoted key ++ ':' :: value.compact ++ ',' :: compactMembers members

end

/-- The blanks at the beginning of a line at a depth. -/
def indent (depth : Nat) : List Char :=
  '\n' :: List.replicate (2 * depth) ' '

mutual

/-- The indented text of a value at a depth. -/
def Value.indented (depth : Nat) : Value → List Char
  | .array [] => "[]".toList
  | .array items => '[' :: indentedItems (depth + 1) items ++ indent depth ++ [']']
  | .object [] => ['{', '}']
  | .object members => '{' :: indentedMembers (depth + 1) members ++ indent depth ++ ['}']
  | .null => "null".toList
  | .bool b => if b then "true".toList else "false".toList
  | .number n => n.text
  | .string s => quoted s

/-- The indented texts of items, each on a line of its own, with commas between them. -/
def indentedItems (depth : Nat) : List Value → List Char
  | [] => []
  | [item] => indent depth ++ item.indented depth
  | item :: items => indent depth ++ item.indented depth ++ ',' :: indentedItems depth items

/-- The indented texts of members, each on a line of its own, with commas between them. -/
def indentedMembers (depth : Nat) : List (String × Value) → List Char
  | [] => []
  | [(key, value)] => indent depth ++ quoted key ++ ':' :: ' ' :: value.indented depth
  | (key, value) :: members =>
    indent depth ++ quoted key ++ ':' :: ' ' :: value.indented depth ++
      ',' :: indentedMembers depth members

end

/-- A member put among members in the order of their keys; it takes the place of one with its
key. -/
def insertMember (key : String) (value : Value) : List (String × Value) → List (String × Value)
  | [] => [(key, value)]
  | (k, v) :: members =>
    if key < k then (key, value) :: (k, v) :: members
    else if key = k then (key, value) :: members
    else (k, v) :: insertMember key value members

mutual

/-- The value with the members of every object in the order of their keys, the last one of each
key. -/
def Value.sorted : Value → Value
  | .array items => .array (sortedItems items)
  | .object members => .object (sortedMembers [] members)
  | .null => .null
  | .bool b => .bool b
  | .number n => .number n
  | .string s => .string s

/-- Each of the items with its members sorted. -/
def sortedItems : List Value → List Value
  | [] => []
  | item :: items => item.sorted :: sortedItems items

/-- Members put one after the other among members that are sorted already. -/
def sortedMembers (done : List (String × Value)) : List (String × Value) → List (String × Value)
  | [] => done
  | (key, value) :: members => sortedMembers (insertMember key value.sorted done) members

end

/-- The compact text of a value as a string. -/
def Value.text (v : Value) : String :=
  String.ofList v.compact

/-- The indented text of a value as a string. -/
def Value.prettyText (v : Value) : String :=
  String.ofList (v.indented 0)

end McpConsole.Json
