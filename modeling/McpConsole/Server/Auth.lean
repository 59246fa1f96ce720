import McpConsole.Text.Blank

/-!
# Authentication kinds

How the proxy proves itself to a managed server. A kind that is not known keeps the text that it
was given by.
-/

namespace McpConsole

open McpConsole.Text

/-- How the proxy authenticates with a managed server. -/
inductive Auth where
  | none
  | apiKey
  | bearerToken
  | basic
  | other (text : String)
  deriving DecidableEq, Repr

namespace Auth

/-- The kind that is offered first. -/
instance : Inhabited Auth := ⟨.none⟩

/-- The kinds that can be chosen, in the order in which they are offered. -/
def choices : List Auth :=
  [.none, .apiKey, .bearerToken, .basic]

/-- The text of a kind in requests and answers. -/
def wire : Auth → String
  | .none => "none"
  | .apiKey => "api_key"
  | .bearerToken => "bearer_token"
  | .basic => "basic"
  | .other text => text

/-- The text of a kind on the screen. -/
def label : Auth → String
  | .none => "None"
  | .apiKey => "API Key"
  | .bearerToken => "Bearer Token"
  | .basic => "Basic Auth"
  | .other text => text

/-- The kind of a text in an answer; the blanks around the text and its case do not matter, and a
blank text is no authentication. -/
def ofWire (text : String) : Auth :=
  let name := lowercase (trimmed text)
  if name = "" ∨ name = "none" then .none
  else if name = "api_key" then .apiKey
  else if name = "bearer_token" then .bearerToken
  else if name = "basic" then .basic
  else .other text

end Auth

end McpConsole
