import McpConsole.Console.Cursor
import McpConsole.Console.Form
import McpConsole.Console.Message
import McpConsole.Console.Theme
import McpConsole.Query.Store
import McpConsole.Session.Basic

/-!
# The application

What the console knows, and how it changes: by what the user asks for, each of which gives the
effects that it leads to, and by messages. Nothing here is drawn, and nothing is carried out.

Servers are read from the store of fetches under the session's access token, so that a session
without a token has none.
-/

namespace McpConsole.Console

open McpConsole.Query

/-- A notice at the foot of the screen. -/
structure Notice where
  severity : Severity
  text : String
  /-- Whether its time is over. -/
  isDue : Bool
  deriving DecidableEq, Repr

/-- What the console knows. -/
structure App where
  theme : Theme
  session : Session
  route : Route
  modal : Option Modal
  cursor : Cursor
  /-- The server that is to be deleted once the user confirms it. -/
  pendingDelete : Option String
  /-- The server that is shown alone. -/
  detail : Option Detail
  /-- The form of a new server. -/
  create : Option Form
  queries : Store (List Server)
  dialog : Dialog
  notice : Option Notice
  /-- Whether calls have not come back yet. -/
  isExecuting : Bool
  /-- The picture of the throbber that is shown while calls are out. -/
  throbber : Nat
  hasQuit : Bool
  deriving DecidableEq, Repr

/-- The pictures of the throbber. -/
def throbberPictures : List String :=
  ["⠋", "⠙", "⠹", "⠸", "⠼", "⠴", "⠦", "⠧", "⠇", "⠏"]

namespace App

/-- The application of a session at its start. -/
def start (theme : Theme) (session : Session) : App where
  theme := theme
  session := session
  route := .list
  modal := none
  cursor := default
  pendingDelete := none
  detail := none
  create := none
  queries := .empty
  dialog := default
  notice := none
  isExecuting := false
  throbber := 0
  hasQuit := false

/-! ### What is known -/

/-- The key of the list of servers, which is the session's access token. -/
def listKey? (a : App) : Option String :=
  a.session.credential

/-- The servers that were fetched last. -/
def servers (a : App) : List Server :=
  (a.listKey?.bind a.queries.data?).getD []

/-- How far the last fetch of the list has come. -/
def listStatus (a : App) : Status :=
  (a.listKey?.map a.queries.status).getD .idle

/-- Whether the list is being fetched. -/
def isLoading (a : App) : Bool :=
  a.listKey?.any a.queries.isLoading

/-- The server under the cursor. -/
def selected? (a : App) : Option Server :=
  a.cursor.selected.bind fun row => a.servers[row]?

/-! ### What the user asks for -/

/-- Shows a notice. -/
def notify (a : App) (severity : Severity) (text : String) : App :=
  { a with notice := some ⟨severity, text, false⟩ }

/-- The time of the notice is over. -/
def expireNotice (a : App) : App :=
  { a with notice := a.notice.map fun n => { n with isDue := true } }

/-- Fetches the list, unless the session lacks something. -/
def refresh (a : App) : List Effect :=
  if a.session.isComplete then [.call .list] else []

/-- Shows a server alone. Only administrators may edit it. -/
def openDetail (a : App) (id : String) (editing : Bool) : App × List Effect :=
  let server := Server.find a.servers id
  let detail := if editing && a.session.isAdmin then Detail.editing server else .viewing server
  ({ a with detail := some detail }, [.switchTo .detail])

/-- Goes back from a server to the list. -/
def closeDetail (a : App) : App × List Effect :=
  ({ a with detail := none }, [.switchTo .list])

/-- The question whether a server is to be deleted. -/
def deleteQuestion (label : String) : Question where
  title := some "Delete MCP Server"
  message := some ("Are you sure you want to delete the MCP server \"" ++ label ++
    "\"? This action cannot be undone.")
  severity := some .warning
  confirmLabel := some "Delete"
  cancelLabel := some "Cancel"

/-- Asks an administrator whether a server is to be deleted. -/
def requestDelete (a : App) (id : String) : App × List Effect :=
  if a.session.isAdmin then
    let name := (Server.find a.servers id).displayName
    let label := if name.isEmpty then id else name
    ({ a with pendingDelete := some id, dialog := .ask (deleteQuestion label) },
      [.showModal .confirmDelete])
  else (a, [])

/-- Deletes the server that the user was asked about. -/
def confirmDelete (a : App) : App × List Effect :=
  match a.pendingDelete with
  | some id => ({ a with pendingDelete := none }, [.call (.delete id)])
  | none => (a, [])

/-- Deletes nothing. -/
def cancelDelete (a : App) : App :=
  { a with pendingDelete := none }

/-- Shows an administrator the form of a new server. -/
def openCreate (a : App) : App × List Effect :=
  if a.session.isAdmin then ({ a with create := some .empty }, [.switchTo .create])
  else (a, [])

/-- Goes back from the form of a new server to the list. -/
def closeCreate (a : App) : App × List Effect :=
  ({ a with create := none }, [.switchTo .list])

/-- Sends a form with what it says, unless it was sent already or something is missing. -/
def submit {α : Type} (f : Form) (filled : Except (List Field) α) (call : α → Api.Call) :
    Form × List Effect :=
  if f.isSubmitting then (f, [])
  else
    match filled with
    | .ok payload => (f.sent, [.call (call payload)])
    | .error missing => ({ f with missing }, [])

/-- Sends the form of a new server. -/
def submitCreate (a : App) : App × List Effect :=
  match a.create with
  | none => (a, [])
  | some form =>
    let (form, effects) := submit form form.details .create
    ({ a with create := some form }, effects)

/-- Sends an administrator's form of a changed server. -/
def submitUpdate (a : App) : App × List Effect :=
  match a.session.isAdmin, a.detail with
  | true, some detail =>
    match detail.form with
    | none => (a, [])
    | some form =>
      let (form, effects) := submit form (form.revision detail.server.id) .update
      ({ a with detail := some { detail with form := some form } }, effects)
  | _, _ => (a, [])

/-! ### Messages -/

/-- Marks the list stale after a change, and fetches it again if it was ever fetched. -/
def invalidateList (a : App) : App × List Effect :=
  match a.listKey? with
  | none => (a, [])
  | some key =>
    let (queries, isKnown) := a.queries.invalidate key
    ({ a with queries }, if isKnown then [.call .list] else [])

/-- The list of a numbered fetch has come, or its failure. -/
def applyFetched (a : App) (generation : Nat) (result : Except String (List Server)) : App :=
  match a.listKey? with
  | none => a
  | some key =>
    let (queries, isAccepted) := a.queries.resolve key generation result
    if isAccepted then
      let a := { a with queries }
      { a with cursor := a.cursor.normalize a.servers.length }
    else a

/-- A server was deleted, or not. -/
def applyDeleted (a : App) : Except String Unit → App × List Effect
  | .ok _ => (a.notify .success "MCP Server deleted successfully").invalidateList
  | .error reason => (a.notify .error ("Failed to delete MCP server: " ++ reason), [])

/-- A server was made, or not. -/
def applyCreated (a : App) : Except String Server → App × List Effect
  | .ok _ =>
    let a := a.notify .success "MCP Server created successfully"
    let (a, effects) := { a with create := none }.invalidateList
    (a, .switchTo .list :: effects)
  | .error reason =>
    let a := { a with create := a.create.map Form.released }
    (a.notify .error ("Failed to create MCP server: " ++ reason), [])

/-- A server was changed, or not. -/
def applyUpdated (a : App) : Except String Server → App × List Effect
  | .ok server =>
    let a := { a with detail := a.detail.map fun d => Detail.finishEditing d server }
    (a.notify .success "MCP Server updated successfully").invalidateList
  | .error reason =>
    let a := { a with detail := a.detail.map fun d => Detail.mapForm d Form.released }
    (a.notify .error ("Failed to update MCP server: " ++ reason), [])

/-- Something has come back. -/
def applyOutcome (a : App) : Outcome → App × List Effect
  | .fetched generation result => (a.applyFetched generation result, [])
  | .deleted _ result => a.applyDeleted result
  | .created result => a.applyCreated result
  | .updated result => a.applyUpdated result
  | .remark text => (a.notify .info text, [])

/-- Some time has passed: a notice whose time is over goes, and the throbber turns. -/
def tick (a : App) : App :=
  { a with
    notice := a.notice.filter fun n => !n.isDue
    throbber :=
      if a.isExecuting then (a.throbber + 1) % throbberPictures.length else a.throbber }

/-- What a message changes, and the effects that it leads to. -/
def update (a : App) : Message → App × List Effect
  | .tick => (a.tick, [])
  | .resize _ _ => (a, [])
  | .completed outcome => a.applyOutcome outcome
  | .chosen .confirm => a.confirmDelete
  | .chosen .cancel => (a.cancelDelete, [])
  | .dismissed => (a.cancelDelete, [])

/-- Takes note of an effect that changes what is on the screen; other effects change nothing. -/
def navigate (a : App) : Effect → App
  | .switchTo route => { a with route }
  | .showModal modal => { a with modal := some modal }
  | .closeModal => { a with modal := none }
  | .quit => { a with hasQuit := true }
  | _ => a

end App

end McpConsole.Console
