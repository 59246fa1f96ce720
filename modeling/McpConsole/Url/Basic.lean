import McpConsole.Url.Host

/-!
# URLs

The parts of a URL, each encoded as it is written. The path of a URL that has a host is a list of
segments. A URL without a host can have a path that is taken as it is.
-/

namespace McpConsole

/-- The path of a URL. -/
inductive Url.Route where
  | segments (names : List String)
  | verbatim (text : String)
  deriving DecidableEq, Repr

/-- A URL. -/
structure Url where
  scheme : String
  username : String
  password : String
  host : Option Url.Host
  port : Option Nat
  path : Url.Route
  query : Option String
  fragment : Option String
  deriving DecidableEq, Repr

namespace Url

/-- The schemes whose URLs have a host in ASCII, with the port that need not be written. -/
def specialSchemes : List (String × Option Nat) :=
  [("http", some 80), ("https", some 443), ("ws", some 80), ("wss", some 443), ("ftp", some 21),
   ("file", none)]

/-- Whether a scheme is special. -/
def isSpecial (scheme : String) : Bool :=
  specialSchemes.any fun entry => entry.1 == scheme

/-- The port of a scheme that need not be written. -/
def defaultPort? (scheme : String) : Option Nat :=
  (specialSchemes.lookup scheme).join

/-- The text of a path. -/
def Route.text : Route → String
  | .segments names => String.join (names.map ("/" ++ ·))
  | .verbatim text => text

/-- A text with a mark before it, if there is one. -/
def marked (mark : String) (text : Option String) : String :=
  match text with
  | none => ""
  | some text => mark ++ text

/-- The user name and the password before a host. -/
def userText (u : Url) : String :=
  if u.username.isEmpty && u.password.isEmpty then ""
  else u.username ++ (if u.password.isEmpty then "" else ":" ++ u.password) ++ "@"

/-- The text between the scheme and the path. -/
def authorityText (u : Url) : String :=
  match u.host with
  | some host => "//" ++ u.userText ++ host.text ++ marked ":" (u.port.map toString)
  | none => if u.scheme = "file" then "//" else ""

/-- The path and the query, which are what a request names. -/
def target (u : Url) : String :=
  u.path.text ++ marked "?" u.query

/-- The text of a URL. -/
def text (u : Url) : String :=
  u.scheme ++ ":" ++ u.authorityText ++ u.target ++ marked "#" u.fragment

end Url

end McpConsole
