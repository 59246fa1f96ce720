import McpConsole.Text.Blank

/-!
# Hiding secrets

A text that goes to a log or to the screen first loses everything that looks like a secret: the
value of an authorization header, a bearer token, the value assigned to a name that ends like a
secret's, and a bare key. What introduces the secret stays, so that the text is still of use.

A `Pattern` looks at the beginning of a text only. `replaceAll` moves it over the text from left
to right, and `redact` applies the four patterns one after the other, each to what the one before
it left.
-/

namespace McpConsole.Text.Redaction

/-- A secret at the beginning of a text: of its first `size` characters the first `kept` stay. -/
structure Hit where
  kept : Nat
  size : Nat
  deriving DecidableEq, Repr

/-- What finds a secret at the beginning of a text. -/
abbrev Pattern := List Char → Option Hit

/-- What stands for a secret. -/
def mark : List Char :=
  "[REDACTED]".toList

/-- The text with every hit of a pattern, from left to right, made unreadable. -/
def replaceAll (pattern : Pattern) : List Char → List Char
  | [] => []
  | c :: cs =>
    match pattern (c :: cs) with
    | none => c :: replaceAll pattern cs
    | some hit =>
      (c :: cs).take hit.kept ++ mark ++ replaceAll pattern (cs.drop (hit.size - 1))
termination_by cs => cs.length
decreasing_by
  all_goals simp only [List.length_cons, List.length_drop]
  all_goals omega

/-- A letter without its case. The long s and the Kelvin sign are the letters that they stand
for. -/
def foldCase (c : Char) : Char :=
  if c = 'ſ' then 's' else if c = '\u212A' then 'k' else c.toLower

/-- The rest of a text after a word given in small letters, whatever the case of the text. -/
def afterWord : List Char → List Char → Option (List Char)
  | [], cs => some cs
  | _ :: _, [] => none
  | w :: word, c :: cs => if foldCase c = w then afterWord word cs else none

/-- The number of leading characters of a class. -/
def runLength (p : Char → Bool) (cs : List Char) : Nat :=
  (cs.takeWhile p).length

/-- Whether a character can be part of the value of an authorization header. -/
def isHeaderValue (c : Char) : Bool :=
  !isBlank c && c != ','

/-- How much of a header value is its scheme: a word that names one and the blanks after it, if a
value follows them. -/
def schemeLength (scheme cs : List Char) : Nat :=
  match afterWord scheme cs with
  | none => 0
  | some rest =>
    let blanks := runLength isBlank rest
    if 0 < blanks ∧ 0 < runLength isHeaderValue (rest.drop blanks) then scheme.length + blanks
    else 0

/-- The value of an authorization header, with its scheme. The name of the header and the blanks
after the colon stay. -/
def authorization : Pattern := fun cs =>
  match afterWord "authorization:".toList cs with
  | none => none
  | some rest =>
    let kept := "authorization:".length + runLength isBlank rest
    let value := cs.drop kept
    let scheme := max (schemeLength "bearer".toList value) (schemeLength "basic".toList value)
    let secret := runLength isHeaderValue (value.drop scheme)
    if secret = 0 then none else some ⟨kept, kept + scheme + secret⟩

/-- Whether a character can be part of a bearer token. -/
def isTokenChar (c : Char) : Bool :=
  (foldCase c).isAlphanum || c == '-' || c == '.' || c == '_' || c == '~' || c == '+' || c == '/'

/-- A token after the word `bearer`. The word and the blanks after it stay. -/
def bearer : Pattern := fun cs =>
  match afterWord "bearer".toList cs with
  | none => none
  | some rest =>
    let blanks := runLength isBlank rest
    let token := runLength isTokenChar (rest.drop blanks)
    if blanks = 0 ∨ token = 0 then none
    else
      let kept := "bearer".length + blanks
      let padding := runLength (· == '=') (rest.drop (blanks + token))
      some ⟨kept, kept + token + padding⟩

/-- Whether a character can be part of the name of a setting. -/
def isNameChar (c : Char) : Bool :=
  (foldCase c).isAlphanum || c == '_'

/-- The endings of the names of secret settings. -/
def secretNames : List (List Char) :=
  ["key".toList, "token".toList, "secret".toList, "password".toList]

/-- Whether a name ends like the name of a secret setting. -/
def namesSecret (name : List Char) : Bool :=
  secretNames.any fun word => word.reverse.isPrefixOf (name.reverse.map foldCase)

/-- The value assigned to a secret setting. The name and the equals sign stay. -/
def assignment : Pattern := fun cs =>
  let name := cs.takeWhile isNameChar
  match cs.drop name.length with
  | '=' :: value =>
    let secret := runLength (fun c => !isBlank c) value
    if namesSecret name && secret != 0 then
      some ⟨name.length + 1, name.length + 1 + secret⟩
    else none
  | _ => none

/-- Whether a character can be part of a bare key. -/
def isKeyChar (c : Char) : Bool :=
  c.isAlphanum || c == '-' || c == '_'

/-- A bare key: `sk-` and at least six characters. Nothing of it stays. -/
def bareKey : Pattern := fun cs =>
  match cs with
  | 's' :: 'k' :: '-' :: rest =>
    let size := runLength isKeyChar rest
    if size < 6 then none else some ⟨0, 3 + size⟩
  | _ => none

/-- The patterns in the order in which they are applied. -/
def patterns : List Pattern :=
  [authorization, bearer, assignment, bareKey]

/-- The text with every secret made unreadable. -/
def redact (cs : List Char) : List Char :=
  patterns.foldl (fun text pattern => replaceAll pattern text) cs

end McpConsole.Text.Redaction

namespace McpConsole.Text

/-- The string with every secret made unreadable. -/
def redacted (s : String) : String :=
  String.ofList (Redaction.redact s.toList)

end McpConsole.Text
