import McpConsole.Console.Arrange
import McpConsole.Proofs.Console.Rounds

/-!
# The core of the console

The console without its looks. `Core` keeps what the console decides by: the session, where the
user is, the dialog, the cursor, the forms and the store of fetches. What it leaves out (the
notice, the throbber, the words of the dialog, the places of the controls) changes nothing of what
is kept, and no call depends on it.

Whatever happens to the console comes to one of a few `Deed`s of its core. `Core.enact` says what a
deed changes and which calls it issues, and `Core.Permits` when it can be done at all.
-/

namespace McpConsole

/-- A session that lacks nothing has an access token. -/
theorem Session.exists_credential {s : Session} (h : s.isComplete = true) :
    ∃ credential, s.credential = some credential := by
  cases hc : s.credential with
  | some credential => exact ⟨credential, rfl⟩
  | none => simp [isComplete, missing, hc] at h

namespace Console

open McpConsole.Query McpConsole.Screen

/-- What the console decides by. -/
structure Core where
  session : Session
  route : Route
  /-- The route of the view that is on the screen. -/
  shown : Route
  /-- Whether a dialog is on the screen. -/
  isAsking : Bool
  modal : Option Modal
  pendingDelete : Option String
  cursor : Cursor
  detail : Option Detail
  create : Option Form
  queries : Store (List Server)

/-- The core of the console. -/
def State.core (s : State) : Core where
  session := s.app.session
  route := s.app.route
  shown := s.view.content.route
  isAsking := s.view.dialog.isSome
  modal := s.app.modal
  pendingDelete := s.app.pendingDelete
  cursor := s.app.cursor
  detail := s.app.detail
  create := s.app.create
  queries := s.app.queries

/-- How the cursor of a list of a length can be moved. -/
inductive Cursor.Moves (length : Nat) (c : Cursor) : Cursor → Prop
  | previous : Moves length c (c.previous length)
  | next : Moves length c (c.next length)
  /-- A click on a row selects it. -/
  | row {index : Nat} (h : index < length) : Moves length c { c with selected := some index }
  /-- Drawing brings the cursor into view. -/
  | arrange (rows : Rect) : Moves length c (c.arrange rows length)

/-- What can be done to the core of the console. -/
inductive Deed where
  /-- Nothing that the core knows of. -/
  | rest
  | point (cursor : Cursor)
  | refresh
  /-- A server is shown alone, perhaps after a click on its row. -/
  | visit (cursor : Cursor) (detail : Detail)
  /-- The dialog is opened for a server. -/
  | ask (id : String)
  /-- The dialog is closed, by a choice or without one. -/
  | answer (choice : Option Choice)
  /-- The form of a new server is opened. -/
  | draft
  | leaveDetail
  | leaveCreate
  | startEditing
  | fillDetail (form : Form)
  | fillCreate (form : Form)
  | sendDetail
  | sendCreate
  /-- Something has come back. -/
  | come (outcome : Outcome)

namespace Core

/-- The servers that were fetched last. -/
def servers (k : Core) : List Server :=
  (k.session.credential.bind k.queries.data?).getD []

/-- The server under the cursor. -/
def selected? (k : Core) : Option Server :=
  k.cursor.selected.bind fun row => k.servers[row]?

/-- What is shown of a server that is opened. Only administrators may edit it. -/
def opened (k : Core) (id : String) (editing : Bool) : Detail :=
  if editing && k.session.isAdmin then .editing (Server.find k.servers id)
  else .viewing (Server.find k.servers id)

/-- Whether the view of a route gets the keys and the mouse. -/
structure Faces (k : Core) (route : Route) : Prop where
  isComplete : k.session.isComplete = true
  isAsking : k.isAsking = false
  shown : k.shown = route

/-- The core on another route. -/
def turnedTo (k : Core) (route : Route) : Core :=
  { k with route, shown := route }

/-- The core once a call is issued, and the call. Without an access token nothing is issued. -/
def issue (k : Core) (call : Api.Call) : Core × List Issued :=
  match k.session.credential with
  | none => (k, [])
  | some credential =>
    match call with
    | .list =>
      let (queries, generation) := k.queries.begin credential
      ({ k with queries }, [.list credential generation])
    | .delete id => (k, [.delete credential id])
    | .create details => (k, [.create credential details])
    | .update revision => (k, [.update credential revision])

/-- Fetches the list again after a change, if it was ever fetched. -/
def refetch (k : Core) : Core × List Issued :=
  match k.session.credential with
  | none => (k, [])
  | some key =>
    let (queries, isKnown) := k.queries.invalidate key
    if isKnown then { k with queries }.issue .list else ({ k with queries }, [])

/-- Sends a form, which `put` keeps, unless it was sent already or something is missing. -/
def submit {α : Type} (k : Core) (put : Form → Core) (form : Form)
    (filled : Except (List Field) α) (call : α → Api.Call) : Core × List Issued :=
  if form.isSubmitting then (k, [])
  else
    match filled with
    | .ok payload => (put form.sent).issue (call payload)
    | .error missing => (put { form with missing }, [])

/-- What the outcome of a call changes. -/
def receive (k : Core) : Outcome → Core × List Issued
  | .fetched generation result =>
    match k.session.credential with
    | none => (k, [])
    | some key =>
      let (queries, isAccepted) := k.queries.resolve key generation result
      if isAccepted then
        ({ k with queries, cursor := k.cursor.normalize { k with queries }.servers.length }, [])
      else (k, [])
  | .deleted _ (.ok _) => k.refetch
  | .deleted _ (.error _) => (k, [])
  | .created (.ok _) => ({ k with create := none }.turnedTo .list).refetch
  | .created (.error _) => ({ k with create := k.create.map Form.released }, [])
  | .updated (.ok server) =>
    { k with detail := k.detail.map fun d => Detail.finishEditing d server }.refetch
  | .updated (.error _) =>
    ({ k with detail := k.detail.map fun d => Detail.mapForm d Form.released }, [])
  | .remark _ => (k, [])

/-- What a deed changes, and the calls that it issues. -/
def enact (k : Core) : Deed → Core × List Issued
  | .rest => (k, [])
  | .point cursor => ({ k with cursor }, [])
  | .refresh => k.issue .list
  | .visit cursor detail => ({ k with cursor, detail := some detail }.turnedTo .detail, [])
  | .ask id =>
    ({ k with pendingDelete := some id, modal := some .confirmDelete, isAsking := true }, [])
  | .answer choice =>
    let closed := { k with pendingDelete := none, modal := none, isAsking := false }
    match choice, k.pendingDelete with
    | some .confirm, some id => closed.issue (.delete id)
    | _, _ => (closed, [])
  | .draft => ({ k with create := some .empty }.turnedTo .create, [])
  | .leaveDetail => ({ k with detail := none }.turnedTo .list, [])
  | .leaveCreate => ({ k with create := none }.turnedTo .list, [])
  | .startEditing => ({ k with detail := k.detail.map Detail.startEditing }, [])
  | .fillDetail form =>
    ({ k with detail := k.detail.map fun d => { d with form := some form } }, [])
  | .fillCreate form => ({ k with create := some form }, [])
  | .sendDetail =>
    match k.session.isAdmin, k.detail with
    | true, some detail =>
      match detail.form with
      | none => (k, [])
      | some form =>
        k.submit (fun form => { k with detail := some { detail with form := some form } }) form
          (form.revision detail.server.id) .update
    | _, _ => (k, [])
  | .sendCreate =>
    match k.create with
    | none => (k, [])
    | some form => k.submit (fun form => { k with create := some form }) form form.details .create
  | .come outcome => k.receive outcome

/-- When a deed can be done. -/
def Permits (k : Core) : Deed → Prop
  | .rest => True
  | .point cursor => k.shown = .list ∧ k.cursor.Moves k.servers.length cursor
  | .refresh => k.Faces .list
  | .visit cursor detail =>
    k.Faces .list ∧ (cursor = k.cursor ∨ k.cursor.Moves k.servers.length cursor) ∧
      ∃ server editing, { k with cursor }.selected? = some server ∧
        detail = k.opened server.id editing
  | .ask id =>
    k.Faces .list ∧ k.session.isAdmin = true ∧ ∃ server, k.selected? = some server ∧ server.id = id
  | .answer _ => k.session.isComplete = true ∧ k.isAsking = true
  | .draft => k.Faces .list ∧ k.session.isAdmin = true
  | .leaveDetail => k.Faces .detail
  | .leaveCreate => k.Faces .create
  | .startEditing =>
    k.Faces .detail ∧ k.session.isAdmin = true ∧
      ∃ detail, k.detail = some detail ∧ detail.form = none ∧ detail.server.isPlaceholder = false
  | .fillDetail form =>
    k.Faces .detail ∧ ∃ detail old press, k.detail = some detail ∧ detail.form = some old ∧
      form = (old.handleKey press).1
  | .fillCreate form =>
    k.Faces .create ∧ ∃ old press, k.create = some old ∧ form = (old.handleKey press).1
  | .sendDetail => k.Faces .detail ∧ ∃ detail form, k.detail = some detail ∧ detail.form = some form
  | .sendCreate => k.Faces .create ∧ ∃ form, k.create = some form
  | .come _ => True

/-! ### Calls -/

@[simp] theorem issue_session (k : Core) (call : Api.Call) :
    (k.issue call).1.session = k.session := by
  unfold issue
  split
  · rfl
  · cases call <;> rfl

/-- Only the store of fetches changes when a call is issued. -/
theorem issue_fst (k : Core) (call : Api.Call) :
    (k.issue call).1 = { k with queries := (k.issue call).1.queries } := by
  unfold issue
  split
  · rfl
  · cases call <;> rfl

theorem issue_delete {k : Core} {credential : String}
    (h : k.session.credential = some credential) (id : String) :
    k.issue (.delete id) = (k, [.delete credential id]) := by
  rw [issue, h]

end Core

end Console

end McpConsole
