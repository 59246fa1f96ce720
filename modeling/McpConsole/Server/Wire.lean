import McpConsole.Json.Decode
import McpConsole.Json.Printer
import McpConsole.Server.Basic

/-!
# Servers in requests and answers

The JSON forms of a server, of the details of a new one and of a revision, and how each is read
back. A server has all its members, null where there is nothing. Details and revisions leave out a
name or description that there is none of.
-/

namespace McpConsole

open McpConsole.Json

/-- A member for a string, if there is one. -/
def optionalMember (key : String) (text : Option String) : List (String × Value) :=
  match text with
  | none => []
  | some text => [(key, .string text)]

namespace Details

/-- The members of details. -/
def members (d : Details) : List (String × Value) :=
  optionalMember "alias" d.name ++ optionalMember "description" d.description ++
    [("transport", .string d.transport.wire), ("auth_type", .string d.auth.wire),
     ("url", .string d.url)]

/-- Details as a value. -/
def toValue (d : Details) : Value :=
  .object d.members

/-- The members of details, in their order. -/
def keys : List String :=
  ["alias", "description", "transport", "auth_type", "url"]

/-- Details from their fields, of which the last three have to be there. -/
def ofFields? : List (Option Node) → Option Details
  | [name, description, transport, auth, url] => do
    let name ← optionalString? name
    let description ← optionalString? description
    let transport ← requiredString? transport
    let auth ← requiredString? auth
    let url ← requiredString? url
    some ⟨name, description, Transport.ofWire transport, Auth.ofWire auth, url⟩
  | _ => none

/-- The details that a text means. -/
def ofNode? (node : Node) : Option Details :=
  (node.fields? keys).bind ofFields?

end Details

namespace Revision

/-- A revision as a value. -/
def toValue (r : Revision) : Value :=
  .object (("server_id", .string r.id) :: r.details.members)

/-- The revision that a text means. -/
def ofNode? (node : Node) : Option Revision := do
  match ← node.fields? ("server_id" :: Details.keys) with
  | id :: fields =>
    let id ← requiredString? id
    let details ← Details.ofFields? fields
    some ⟨id, details⟩
  | [] => none

end Revision

namespace Server

/-- A server as a value. -/
def toValue (s : Server) : Value :=
  .object
    [("server_id", .string s.id), ("alias", .ofOption s.details.name),
     ("description", .ofOption s.details.description),
     ("transport", .string s.details.transport.wire), ("auth_type", .string s.details.auth.wire),
     ("url", .string s.details.url), ("created_at", .ofOption s.createdAt),
     ("updated_at", .ofOption s.updatedAt), ("created_by", .ofOption s.createdBy),
     ("updated_by", .ofOption s.updatedBy)]

/-- The members of a server, in their order. -/
def keys : List String :=
  "server_id" :: Details.keys ++ ["created_at", "updated_at", "created_by", "updated_by"]

/-- A kind that may be missing or null, which then is the one offered first. -/
def kind? {α : Type} [Inhabited α] (ofWire : String → α) (field : Option Node) : Option α :=
  (optionalString? field).map fun text => (text.map ofWire).getD default

/-- A server from its fields, of which only the identifier has to be there. -/
def ofFields? : List (Option Node) → Option Server
  | [id, name, description, transport, auth, url, createdAt, updatedAt, createdBy, updatedBy] => do
    let id ← requiredString? id
    let name ← optionalString? name
    let description ← optionalString? description
    let transport ← kind? Transport.ofWire transport
    let auth ← kind? Auth.ofWire auth
    let url ← stringOrEmpty? url
    let createdAt ← optionalString? createdAt
    let updatedAt ← optionalString? updatedAt
    let createdBy ← optionalString? createdBy
    let updatedBy ← optionalString? updatedBy
    some ⟨id, ⟨name, description, transport, auth, url⟩, createdAt, updatedAt, createdBy, updatedBy⟩
  | _ => none

/-- The server that a text means. -/
def ofNode? (node : Node) : Option Server :=
  (node.fields? keys).bind ofFields?

end Server

/-- The server that a JSON text means. -/
def Server.read? (cs : List Char) : Option Server :=
  (Json.read? cs).bind Server.ofNode?

/-- The details that a JSON text means. -/
def Details.read? (cs : List Char) : Option Details :=
  (Json.read? cs).bind Details.ofNode?

/-- The revision that a JSON text means. -/
def Revision.read? (cs : List Char) : Option Revision :=
  (Json.read? cs).bind Revision.ofNode?

end McpConsole
