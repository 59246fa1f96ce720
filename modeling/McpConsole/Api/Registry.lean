import McpConsole.Api.Call

/-!
# A registry of servers

A management API that is kept in memory: it answers calls from a list of servers, remembers the
calls that it was asked for, and fails those that it is told to fail.
-/

namespace McpConsole.Api

/-- The name of a call. -/
def Call.name : Call → String
  | .list => "list"
  | .delete _ => "delete"
  | .create _ => "create"
  | .update _ => "update"

/-- A management API that is kept in memory. -/
structure Registry where
  servers : List Server
  /-- The failures by the names of the calls that fail. -/
  failures : List (String × Error)
  /-- The calls so far, each with its access token. -/
  calls : List (String × Call)
  deriving DecidableEq, Repr, Inhabited

namespace Registry

/-- The identifier of the next server that is made. -/
def nextId (r : Registry) : String :=
  "srv-new-" ++ toString r.servers.length

/-- The servers with new details for the first one with an identifier. -/
def revise (revision : Revision) : List Server → Option (Server × List Server)
  | [] => none
  | server :: servers =>
    if server.id = revision.id then
      let revised := { server with details := revision.details }
      some (revised, revised :: servers)
    else (revise revision servers).map fun (revised, rest) => (revised, server :: rest)

/-- Carries out a call. -/
def carryOut (r : Registry) : Call → Registry × Except Error Answer
  | .list => (r, .ok (.servers r.servers))
  | .delete id =>
    ({ r with servers := r.servers.filter fun s => s.id != id }, .ok .deleted)
  | .create details =>
    let server : Server := { (default : Server) with id := r.nextId, details }
    ({ r with servers := r.servers ++ [server] }, .ok (.server server))
  | .update revision =>
    match revise revision r.servers with
    | some (server, servers) => ({ r with servers }, .ok (.server server))
    | none => (r, .error (.status 404 "not found"))

/-- Answers a call under an access token. -/
def answer (r : Registry) (credential : String) (call : Call) : Registry × Except Error Answer :=
  let r := { r with calls := r.calls ++ [(credential, call)] }
  match r.failures.lookup call.name with
  | some error => (r, .error error)
  | none => r.carryOut call

end Registry

end McpConsole.Api
