import McpConsole.Url.Basic

/-!
# Reading URLs

A text is read as a URL from left to right: the scheme, the user and the host with its port, the
path, the query and the fragment. Blanks around the text and tabs and line breaks anywhere in it
do not count.

With a special scheme, a backslash is as good as a slash, any number of slashes may come before
the host, and there has to be a host, except in a `file` URL.
-/

namespace McpConsole.Url

/-- The text that counts: without control characters and blanks around it, and without tabs and
line breaks. -/
def cleaned (cs : List Char) : List Char :=
  let isOuter (c : Char) : Bool := c.toNat ≤ 0x20
  let inner := ((cs.dropWhile isOuter).reverse.dropWhile isOuter).reverse
  inner.filter fun c => c != '\t' && c != '\n' && c != '\r'

/-- Whether a character can be in a scheme. -/
def isSchemeChar (c : Char) : Bool :=
  c.isAlphanum || c == '+' || c == '-' || c == '.'

/-- The scheme of a text in small letters, and the rest behind the colon. -/
def splitScheme? (cs : List Char) : Option (List Char × List Char) :=
  let name := cs.takeWhile isSchemeChar
  match cs.drop name.length with
  | ':' :: rest =>
    if name.head?.any Char.isAlpha then some (name.map Char.toLower, rest) else none
  | _ => none

/-- Whether a character separates the segments of a path. -/
def isSlash (special : Bool) (c : Char) : Bool :=
  c == '/' || (special && c == '\\')

/-- Whether a character ends what is before the path. -/
def endsAuthority (special : Bool) (c : Char) : Bool :=
  isSlash special c || c == '?' || c == '#'

/-! ### Users and ports -/

/-- What comes before the last at sign, if there is one, and what comes after it. -/
def splitUser (cs : List Char) : Option (List Char) × List Char :=
  let host := (cs.reverse.takeWhile (· != '@')).reverse
  if host.length < cs.length then (some (cs.take (cs.length - host.length - 1)), host)
  else (none, cs)

/-- A user name and a password, encoded. -/
def userParts (cs : List Char) : String × String :=
  let name := cs.takeWhile (· != ':')
  let password := cs.drop (name.length + 1)
  (String.ofList (encode isEncodedInUser name), String.ofList (encode isEncodedInUser password))

/-- The text of a host, which ends at a colon outside of brackets, and the rest. -/
def splitHost (inBrackets : Bool) : List Char → List Char × List Char
  | [] => ([], [])
  | c :: cs =>
    if c = ':' ∧ !inBrackets then ([], c :: cs)
    else
      let (host, rest) := splitHost ((inBrackets || c == '[') && c != ']') cs
      (c :: host, rest)

/-- The port that a text after a host names, and the rest. No port is named by a colon alone, or
by the number that need not be written. -/
def readPort (scheme : String) : List Char → Except Error (Option Nat × List Char)
  | ':' :: cs =>
    let digits := cs.takeWhile Char.isDigit
    let rest := cs.drop digits.length
    let port := Text.Decimal.value digits
    if 65535 < port ∨ !(rest.isEmpty || rest.head? == some '\\') then .error .invalidPort
    else if digits.isEmpty ∨ defaultPort? scheme = some port then .ok (none, rest)
    else .ok (some port, rest)
  | rest => .ok (none, rest)

/-- What stands between the scheme and the path. -/
structure Authority where
  username : String
  password : String
  host : Option Host
  port : Option Nat

/-- The host that a text names; an empty one is none. -/
def readHost (special : Bool) (cs : List Char) : Except Error (Option Host) :=
  if special then
    if cs.isEmpty then .error .emptyHost else (specialHost cs).map some
  else if cs.isEmpty then .ok none
  else (opaqueHost cs).map some

/-- What a text between the scheme and the path says, and what of it belongs to the path already.
The text `after` is the path. -/
def readAuthority (scheme : String) (cs after : List Char) :
    Except Error (Authority × List Char) := do
  let special := isSpecial scheme
  let (user, rest) := splitUser cs
  if user = some [] ∧ rest.isEmpty ∧ !after.isEmpty then throw .emptyHost
  let (username, password) := userParts (user.getD [])
  let (hostText, rest) := splitHost false rest
  let host ← readHost special hostText
  if host.isNone ∧ rest.head? = some ':' then throw .emptyHost
  let (port, rest) ← readPort scheme rest
  if host.isNone ∧ !(username.isEmpty ∧ password.isEmpty) then throw .emptyHost
  return (⟨username, password, host, port⟩, rest)

/-! ### Paths -/

/-- The pieces of a text between slashes, after the open piece `piece`. -/
def piecesFrom (special : Bool) (piece : List Char) : List Char → List (List Char)
  | [] => [piece]
  | c :: cs =>
    if isSlash special c then piece :: piecesFrom special [] cs
    else piecesFrom special (piece ++ [c]) cs

/-- A segment in which encoded points are points. -/
def undotted : List Char → List Char
  | '%' :: '2' :: e :: cs => if e = 'e' ∨ e = 'E' then '.' :: undotted cs else '%' :: '2' :: e :: cs
  | '.' :: cs => '.' :: undotted cs
  | cs => cs

/-- Whether a segment stands for the present place. -/
def isSingleDot (segment : List Char) : Bool :=
  undotted segment == ['.']

/-- Whether a segment leads one place back. -/
def isDoubleDot (segment : List Char) : Bool :=
  undotted segment == ['.', '.']

/-- The segments of a path, given in reverse order what there is of it already. Segments of points
are followed, and leave an empty segment at the end of the path. -/
def resolve (done : List (List Char)) : List (List Char) → List (List Char)
  | [] => done.reverse
  | segment :: rest =>
    if isDoubleDot segment then
      resolve (if rest.isEmpty then [] :: done.drop 1 else done.drop 1) rest
    else if isSingleDot segment then
      resolve (if rest.isEmpty then [] :: done else done) rest
    else resolve (encode isEncodedInPath segment :: done) rest

/-- The segments that a text means. A leading slash only begins the path. -/
def readSegments (special : Bool) (cs : List Char) : List String :=
  let inner := if cs.head?.any (isSlash special) then cs.drop 1 else cs
  (resolve [] (piecesFrom special [] inner)).map String.ofList

/-- The path behind a host. Only a URL with a special scheme has a path in any case. -/
def readPath (special : Bool) (cs : List Char) : Route :=
  if cs.isEmpty ∧ !special then .segments [] else .segments (readSegments special cs)

/-! ### The whole text -/

/-- The query and the fragment in a text behind a path. -/
def readTail (special : Bool) (cs : List Char) : Option String × Option String :=
  let query := cs.takeWhile (· != '#')
  let fragment := cs.drop query.length
  (if query.head? = some '?' then
      some (String.ofList (encode (isEncodedInQuery special) (query.drop 1)))
    else none,
   if fragment.isEmpty then none
   else some (String.ofList (encode isEncodedInFragment (fragment.drop 1))))

/-- Whether a character ends a path. -/
def endsPath (c : Char) : Bool :=
  c == '?' || c == '#'

/-- A URL with a host, from the text behind the slashes. -/
def readWithHost (scheme : String) (cs : List Char) : Except Error Url := do
  let special := isSpecial scheme
  let before := cs.takeWhile fun c => !endsAuthority special c
  let after := cs.drop before.length
  let (authority, rest) ← readAuthority scheme before after
  let remaining := rest ++ after
  let path := remaining.takeWhile fun c => !endsPath c
  let (query, fragment) := readTail special (remaining.drop path.length)
  return ⟨scheme, authority.username, authority.password, authority.host, authority.port,
    readPath special path, query, fragment⟩

/-- Whether a segment is the letter of a drive. -/
def isDriveLetter : List Char → Bool
  | [letter, mark] => letter.isAlpha && (mark == ':' || mark == '|')
  | _ => false

/-- The host of a `file` URL, from its text. The present machine, or the letter of a drive at that
place, is no host. -/
def readFileHost (cs : List Char) : Except Error (Option Host) := do
  if cs.isEmpty ∨ isDriveLetter cs then return none
  let host ← specialHost cs
  return if host = .domain "localhost" then none else some host

/-- A `file` URL, from the text behind its scheme. A path that begins with the letter of a drive
leaves no host. -/
def readFile (cs : List Char) : Except Error Url := do
  let hasHost := (cs.take 2).length = 2 ∧ (cs.take 2).all (isSlash true)
  let inner := if hasHost then cs.drop 2 else cs
  let hostText := if hasHost then inner.takeWhile fun c => !endsAuthority true c else []
  let host ← readFileHost hostText
  let remaining := if isDriveLetter hostText then inner else inner.drop hostText.length
  let pathText := remaining.takeWhile fun c => !endsPath c
  let names := readSegments true pathText
  let (query, fragment) := readTail true (remaining.drop pathText.length)
  let host := if names.head?.any fun name => isDriveLetter name.toList then none else host
  return ⟨"file", "", "", host, none, .segments names, query, fragment⟩

/-- A URL without a host, from the text behind its scheme. -/
def readWithoutHost (scheme : String) (cs : List Char) : Url :=
  let pathText := cs.takeWhile fun c => !endsPath c
  let (query, fragment) := readTail false (cs.drop pathText.length)
  let path : Route :=
    if pathText.head? = some '/' then .segments (readSegments false pathText)
    else .verbatim (String.ofList (encode isControl pathText))
  ⟨scheme, "", "", none, none, path, query, fragment⟩

/-- The URL that a text is. -/
def read (cs : List Char) : Except Error Url :=
  match splitScheme? (cleaned cs) with
  | none => .error .relativeWithoutBase
  | some (name, rest) =>
    let scheme := String.ofList name
    if scheme = "file" then readFile rest
    else if isSpecial scheme then readWithHost scheme (rest.dropWhile (isSlash true))
    else if ['/', '/'].isPrefixOf rest then readWithHost scheme (rest.drop 2)
    else .ok (readWithoutHost scheme rest)

/-- The URL that a string is. -/
def parse (s : String) : Except Error Url :=
  read s.toList

end McpConsole.Url
