import McpConsole.Server.Auth
import McpConsole.Server.Transport

/-!
# Managed servers

A managed server is an identifier, which never changes, the `Details` that a user can edit, and
the notes of its making. The details alone are what a new server is made from, and together with
an identifier they are a `Revision`, what an existing server is changed to.
-/

namespace McpConsole

open McpConsole.Text

/-- What a user can say about a server. -/
structure Details where
  name : Option String
  description : Option String
  transport : Transport
  auth : Auth
  url : String
  deriving DecidableEq, Repr, Inhabited

/-- A managed server. The times are kept as they were sent. -/
structure Server where
  id : String
  details : Details
  createdAt : Option String
  updatedAt : Option String
  createdBy : Option String
  updatedBy : Option String
  deriving DecidableEq, Repr, Inhabited

/-- New details for the server with an identifier. -/
structure Revision where
  id : String
  details : Details
  deriving DecidableEq, Repr, Inhabited

namespace Server

/-- What is shown for an identifier that no server has. -/
def placeholder : Server := default

/-- Whether a server is only a placeholder. -/
def isPlaceholder (s : Server) : Bool :=
  s.id.isEmpty

/-- The name of a server, or its identifier if the name is missing or blank. -/
def displayName (s : Server) : String :=
  (nonBlank s.details.name).getD s.id

/-- The revision that changes nothing. -/
def revision (s : Server) : Revision :=
  ⟨s.id, s.details⟩

/-- The server with an identifier among servers, or the placeholder. -/
def find (servers : List Server) (id : String) : Server :=
  (servers.find? fun s => s.id == id).getD placeholder

end Server

end McpConsole
