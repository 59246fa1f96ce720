import McpConsole.Json.Numeral
import McpConsole.Json.Reader

/-!
# What a JSON text means

`Node.value?` is the meaning of a whole text: it asks that every string and every numeral has one.
`Node.fields?` is the other way to look at a text, as a record with known fields: an object whose
members may come in any order, or an array of the fields in their order. Members that the record
does not know are not looked at.
-/

namespace McpConsole.Json

mutual

/-- The value of a text, if every string and numeral in it has one. -/
def Node.value? : Node → Option Value
  | .null => some .null
  | .bool b => some (.bool b)
  | .numeral n => n.number?.map .number
  | .string s => s.map .string
  | .array items => (itemValues? items).map .array
  | .object members => (memberValues? members).map .object

/-- The values of all items. -/
def itemValues? : List Node → Option (List Value)
  | [] => some []
  | item :: items => do
    let value ← item.value?
    let values ← itemValues? items
    some (value :: values)

/-- The keys and values of all members. -/
def memberValues? : List (Option String × Node) → Option (List (String × Value))
  | [] => some []
  | (key, item) :: members => do
    let key ← key
    let value ← item.value?
    let values ← memberValues? members
    some ((key, value) :: values)

end

mutual

/-- How deep arrays and objects are nested. -/
def Node.depth : Node → Nat
  | .array items => itemDepth items + 1
  | .object members => memberDepth members + 1
  | _ => 0

/-- The depth of the deepest item. -/
def itemDepth : List Node → Nat
  | [] => 0
  | item :: items => max item.depth (itemDepth items)

/-- The depth of the deepest member. -/
def memberDepth : List (Option String × Node) → Nat
  | [] => 0
  | (_, item) :: members => max item.depth (memberDepth members)

end

/-- The depth from which on a text is not taken in as a whole. -/
def depthLimit : Nat := 128

/-- The value of a text that is taken in as a whole, which has to keep below the depth limit. -/
def Node.whole? (node : Node) : Option Value :=
  if node.depth < depthLimit then node.value? else none

/-- The value of a text that is taken in as a whole. -/
def value? (cs : List Char) : Option Value :=
  (read? cs).bind Node.whole?

/-- The fields of a record by name, in the order of the names; an object has every known key at
most once, and only keys that are texts. -/
def memberFields? (names : List String) (members : List (Option String × Node)) :
    Option (List (Option Node)) := do
  let members ← members.mapM fun member => member.1.map fun key => (key, member.2)
  names.mapM fun name =>
    match members.filter fun member => member.1 == name with
    | [] => some none
    | [member] => some (some member.2)
    | _ => none

/-- The fields of a record, in the order of their names; `none` for a field that is not there. -/
def Node.fields? (names : List String) : Node → Option (List (Option Node))
  | .object members => memberFields? names members
  | .array items =>
    if items.length ≤ names.length then
      some (items.map some ++ List.replicate (names.length - items.length) none)
    else none
  | _ => none

/-- A string that has to be there. -/
def requiredString? : Option Node → Option String
  | some (.string s) => s
  | _ => none

/-- A string that may be missing or null. -/
def optionalString? : Option Node → Option (Option String)
  | none => some none
  | some .null => some none
  | some (.string (some s)) => some (some s)
  | _ => none

/-- A string that may be missing, and is empty then. -/
def stringOrEmpty? : Option Node → Option String
  | none => some ""
  | field => requiredString? field

end McpConsole.Json
