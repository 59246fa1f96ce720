import McpConsole.Http.Status
import McpConsole.Url.Basic

/-!
# Requests and answers

What is sent to a server and what comes back.
-/

namespace McpConsole.Http

/-- A request. Headers are in the order in which they are sent; one can be there twice. -/
structure Request where
  method : String
  url : Url
  headers : List (String × String)
  body : String
  deriving DecidableEq, Repr

namespace Request

/-- The value of the first header with a name. -/
def header? (request : Request) (name : String) : Option String :=
  request.headers.lookup name

/-- What the request names on its server. -/
def target (request : Request) : String :=
  request.url.target

end Request

/-- An answer. -/
structure Response where
  status : Nat
  body : String
  deriving DecidableEq, Repr

/-- The body as it is received. -/
def Response.content (response : Response) : String :=
  if hasNoBody response.status then "" else response.body

/-- Whether a text can be the value of a header. -/
def isHeaderValue (s : String) : Bool :=
  s.toList.all fun c => c == '\t' || (0x20 ≤ c.toNat && c.toNat != 0x7F)

/-- The number of octets up to which the text of a URL can be sent. -/
def urlLimit : Nat := 65534

end McpConsole.Http
