import McpConsole.Text.Blank

/-!
# Transports

How the proxy connects to a managed server. A transport that is not known keeps the text that it
was given by, so that a list with newer entries is still shown.
-/

namespace McpConsole

open McpConsole.Text

/-- How a managed server is connected. -/
inductive Transport where
  | sse
  | http
  | stdio
  | other (text : String)
  deriving DecidableEq, Repr

namespace Transport

/-- The transport that is offered first. -/
instance : Inhabited Transport := ⟨.http⟩

/-- The transports that can be chosen, in the order in which they are offered. -/
def choices : List Transport :=
  [.http, .sse, .stdio]

/-- The text of a transport in requests and answers. -/
def wire : Transport → String
  | .sse => "sse"
  | .http => "http"
  | .stdio => "stdio"
  | .other text => text

/-- The text of a transport on the screen. -/
def label : Transport → String
  | .sse => "SSE"
  | .http => "HTTP"
  | .stdio => "STDIO"
  | .other text => text

/-- The transport of a text in an answer; the blanks around the text and its case do not matter. -/
def ofWire (text : String) : Transport :=
  let name := lowercase (trimmed text)
  if name = "sse" then .sse
  else if name = "http" ∨ name = "streamable_http" ∨ name = "streamable-http" then .http
  else if name = "stdio" then .stdio
  else .other text

end Transport

end McpConsole
