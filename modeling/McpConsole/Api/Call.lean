import McpConsole.Api.Client
import McpConsole.Server.Wire

/-!
# Calls

The four things that the management API is asked for: all servers, and that one is deleted, made
or changed. `Client.requestFor` is the request for a call, `Client.outgoing` the request that is sent
for it, and `Call.result` what an answer to it means.
-/

namespace McpConsole.Api

open McpConsole.Json

/-- What the management API is asked for. -/
inductive Call where
  | list
  | delete (id : String)
  | create (details : Details)
  | update (revision : Revision)
  deriving DecidableEq, Repr

/-- What a call gives. -/
inductive Answer where
  | servers (servers : List Server)
  | deleted
  | server (server : Server)
  deriving DecidableEq, Repr

/-- The path of all servers. -/
def serversPath : String := "/v1/mcp/server"

/-- The path of the server with an identifier. -/
def serverPath (id : String) : String :=
  serversPath ++ "/" ++ String.ofList (Url.encode Url.isEncodedInSegment id.toList)

namespace Call

/-- The method of the request. -/
def method : Call → String
  | .list => "GET"
  | .delete _ => "DELETE"
  | .create _ => "POST"
  | .update _ => "PUT"

/-- The path of the request. -/
def path : Call → String
  | .delete id => serverPath id
  | _ => serversPath

/-- What the request carries. -/
def payload? : Call → Option Value
  | .create details => some details.toValue
  | .update revision => some revision.toValue
  | _ => none

end Call

/-- A request with what it carries, and the headers that every request has. -/
def withPayload (request : Http.Request) (payload : Option Value) : Http.Request :=
  let accept := [("accept", "application/json")]
  match payload with
  | none => { request with headers := request.headers ++ accept }
  | some value =>
    { request with
      headers := request.headers ++ ("content-type", "application/json") :: accept
      body := value.text }

/-- The request for a call. -/
def Client.requestFor (client : Client) (credential : String) (call : Call) :
    Except Error Http.Request := do
  let request ← client.request call.method call.path credential
  if Http.urlLimit < request.url.text.utf8ByteSize then throw .transport
  return withPayload request call.payload?

/-- The request that is sent for a call. A base URL may well ask for `https`, but this client has no
encryption, and so nothing is sent there. -/
def Client.outgoing (client : Client) (credential : String) (call : Call) :
    Except Error Http.Request := do
  let request ← client.requestFor credential call
  if request.url.scheme ≠ "http" then throw .transport
  return request

/-! ### Answers -/

/-- The member of an error body that holds its text: the first that is there. -/
def reasonMember? (members : List (String × Value)) : Option Value :=
  let inner := match lastMember? "error" members with
    | some (.object inner) => lastMember? "message" inner
    | _ => none
  ((lastMember? "detail" members).or inner).or
    ((lastMember? "error" members).or (lastMember? "message" members))

/-- What a value says: the text that it is, or else its own text, and nothing if it is null. -/
def reasonText? : Value → Option String
  | .string text => some text
  | .null => none
  | value => some value.sorted.text

/-- What the body of an error says. -/
def reasonOfBody? (body : String) : Option String :=
  match value? body.toList with
  | some (.object members) => (reasonMember? members).bind reasonText?
  | _ => none

/-- All servers of a list. -/
def serversOfNode? : Node → Option (List Server)
  | .array items => items.mapM Server.ofNode?
  | _ => none

/-- The servers that the body of an answer lists: the body is the list, or an object that has the
list as its only member `data`. -/
def serversOfBody? (body : String) : Option (List Server) := do
  let node ← read? body.toList
  let _ ← node.whole?
  match node with
  | .array items => items.mapM Server.ofNode?
  | .object members => do
    match ← memberFields? ["data"] members with
    | [some list] => serversOfNode? list
    | _ => none
  | _ => none

/-- The server that the body of an answer is. -/
def serverOfBody? (body : String) : Option Server :=
  Server.read? body.toList

/-- What the body of an answer to a call gives. -/
def Call.answer? (call : Call) (body : String) : Option Answer :=
  match call with
  | .list => (serversOfBody? body).map .servers
  | .delete _ => some .deleted
  | .create _ => (serverOfBody? body).map .server
  | .update _ => (serverOfBody? body).map .server

/-- What an answer to a call means. -/
def Call.result (call : Call) (response : Http.Response) : Except Error Answer :=
  let body := response.content
  if Http.isSuccess response.status then
    match call.answer? body with
    | some answer => .ok answer
    | none => .error .decode
  else
    .error (.status response.status ((reasonOfBody? body).getD (Http.reason response.status)))

/-- What a call gives with a server that answers every request, and the request that was sent. -/
def Client.perform (client : Client) (credential : String) (call : Call)
    (server : Http.Request → Http.Response) : Option Http.Request × Except Error Answer :=
  match client.outgoing credential call with
  | .error cause => (none, .error cause)
  | .ok request => (some request, call.result (server request))

end McpConsole.Api
