import McpConsole.Console.App
import McpConsole.Console.Input

/-!
# Views

What is on the screen, and what keys and the mouse do there. A view that is shown anew does not
know yet where its controls are; drawing tells it. Of an open dialog and the view behind it, only
the dialog gets the keys and the mouse.

`State` is all of the console: what it knows and what is on the screen.
-/

namespace McpConsole.Console

open McpConsole.Screen

/-- The controls of the list that can be clicked. -/
inductive Control where
  | rows
  | add
  | edit
  | delete
  deriving DecidableEq, Repr

/-- The view that is on the screen. -/
inductive Content where
  /-- The list, with its controls where they were drawn. -/
  | list (controls : List (Control × Rect))
  | detail
  | create
  deriving DecidableEq, Repr

/-- The route of a view. -/
def Content.route : Content → Route
  | .list _ => .list
  | .detail => .detail
  | .create => .create

/-- What is on the screen: a view, and perhaps a dialog with its buttons where they were drawn. -/
structure View where
  content : Content
  dialog : Option (List Rect)
  deriving DecidableEq, Repr

/-- The console. -/
structure State where
  app : App
  view : View
  deriving DecidableEq, Repr

namespace State

/-- The console of a session at its start. -/
def start (theme : Theme) (session : Session) : State :=
  ⟨.start theme session, ⟨.list [], none⟩⟩

/-- The console with another application state after the user has asked for something. -/
def after (s : State) (result : App × List Effect) : State × List Effect :=
  ({ s with app := result.1 }, result.2)

/-- The console with another application state that leads to nothing else. -/
def quietly (s : State) (app : App) : State × List Effect :=
  ({ s with app }, [])

/-! ### The list -/

/-- Shows the server under the cursor alone. -/
def openSelected (s : State) (editing : Bool) : State × List Effect :=
  match s.app.selected? with
  | some server => s.after (s.app.openDetail server.id editing)
  | none => (s, [])

/-- Asks whether the server under the cursor is to be deleted. -/
def deleteSelected (s : State) : State × List Effect :=
  match s.app.selected? with
  | some server => s.after (s.app.requestDelete server.id)
  | none => (s, [])

/-- Moves the cursor of the list. -/
def moveCursor (s : State) (move : Cursor → Nat → Cursor) : State × List Effect :=
  s.quietly { s.app with cursor := move s.app.cursor s.app.servers.length }

/-- What a key does in the list. -/
def listKey (s : State) (key : Key) : State × List Effect :=
  match key with
  | .up => s.moveCursor .previous
  | .char 'k' => s.moveCursor .previous
  | .down => s.moveCursor .next
  | .char 'j' => s.moveCursor .next
  | .enter => s.openSelected false
  | .char 'e' => if s.app.session.isAdmin then s.openSelected true else (s, [])
  | .char 'd' => if s.app.session.isAdmin then s.deleteSelected else (s, [])
  | .char 'n' => if s.app.session.isAdmin then s.after s.app.openCreate else (s, [])
  | .char 'r' => (s, s.app.refresh)
  | .char 'q' => (s, [.quit])
  | _ => (s, [])

/-- A click on the rows of the list selects a row; on its identifier it shows the server too. -/
def clickRow (s : State) (column row : Nat) : State × List Effect :=
  match s.app.cursor.rowAt? row s.app.servers.length with
  | none => (s, [])
  | some index =>
    let cursor := { s.app.cursor with selected := some index }
    let s := { s with app := { s.app with cursor } }
    if cursor.isInIdColumn column then s.openSelected false else (s, [])

/-- What the mouse does in the list. -/
def listMouse (s : State) (controls : List (Control × Rect)) (m : MouseEvent) :
    State × List Effect :=
  match m.action with
  | .scrollUp => s.moveCursor .previous
  | .scrollDown => s.moveCursor .next
  | .leftDown =>
    match controls.find? fun control => control.2.contains m.column m.row with
    | some (.rows, _) => s.clickRow m.column m.row
    | some (.add, _) => s.after s.app.openCreate
    | some (.edit, _) => s.openSelected true
    | some (.delete, _) => s.deleteSelected
    | none => (s, [])
  | .other => (s, [])

/-! ### A server alone -/

/-- What a key does where a server is shown. -/
def viewingKey (s : State) (detail : Detail) (press : KeyPress) : State × List Effect :=
  let url := detail.server.details.url
  match press.key with
  | .escape => s.after s.app.closeDetail
  | .backspace => s.after s.app.closeDetail
  | .char 'b' => s.after s.app.closeDetail
  | .char 'e' =>
    if s.app.session.isAdmin && !detail.server.isPlaceholder then
      s.quietly { s.app with detail := some detail.startEditing }
    else (s, [])
  | .char 'y' => if press.control && !url.isEmpty then (s, [.copy url]) else (s, [])
  | .char 'q' => (s, [.quit])
  | _ => (s, [])

/-- What a key does where a server is shown or edited. -/
def detailKey (s : State) (press : KeyPress) : State × List Effect :=
  match s.app.detail with
  | none => s.after s.app.closeDetail
  | some detail =>
    match detail.form with
    | none => s.viewingKey detail press
    | some form =>
      let (form, action) := form.handleKey press
      let app := { s.app with detail := some { detail with form := some form } }
      match action with
      | .submit => s.after app.submitUpdate
      | .cancel => s.after app.closeDetail
      | .none => s.quietly app

/-! ### A new server -/

/-- What a key does in the form of a new server. -/
def createKey (s : State) (press : KeyPress) : State × List Effect :=
  match s.app.create with
  | none => s.after s.app.closeCreate
  | some form =>
    let (form, action) := form.handleKey press
    let app := { s.app with create := some form }
    match action with
    | .submit => s.after app.submitCreate
    | .cancel => s.after app.closeCreate
    | .none => s.quietly app

/-! ### The dialog -/

/-- Closes the dialog with a choice. -/
def choose (choice : Choice) : List Effect :=
  [.closeModal, .send (.chosen choice)]

/-- Closes the dialog without a choice. -/
def dismiss : List Effect :=
  [.closeModal, .send .dismissed]

/-- What a key does in the dialog. -/
def dialogKey (s : State) (key : Key) : State × List Effect :=
  let dialog := s.app.dialog
  match key with
  | .tab => s.quietly { s.app with dialog := dialog.focusNext }
  | .right => s.quietly { s.app with dialog := dialog.focusNext }
  | .backTab => s.quietly { s.app with dialog := dialog.focusPrevious }
  | .left => s.quietly { s.app with dialog := dialog.focusPrevious }
  | .enter => (s, (dialog.choice?.map choose).getD [])
  | .char 'y' => (s, choose .confirm)
  | .char 'Y' => (s, choose .confirm)
  | .char 'n' => (s, dismiss)
  | .char 'N' => (s, dismiss)
  | .escape => (s, dismiss)
  | _ => (s, [])

/-- What the mouse does in the dialog. -/
def dialogMouse (s : State) (buttons : List Rect) (m : MouseEvent) : State × List Effect :=
  match m.action with
  | .leftDown =>
    let place := buttons.findIdx? fun area => area.contains m.column m.row
    let button := place.bind fun i => s.app.dialog.buttons[i]?
    (s, (button.map fun b => choose b.choice).getD [])
  | _ => (s, [])

/-! ### All of the console -/

/-- What a key does. Without a complete session the console can only be left. -/
def handleKey (s : State) (press : KeyPress) : State × List Effect :=
  if s.app.session.isComplete then
    if s.view.dialog.isSome then s.dialogKey press.key
    else
      match s.view.content with
      | .list _ => s.listKey press.key
      | .detail => s.detailKey press
      | .create => s.createKey press
  else if press.key = .char 'q' ∨ press.key = .escape then (s, [.quit])
  else (s, [])

/-- What the mouse does. -/
def handleMouse (s : State) (m : MouseEvent) : State × List Effect :=
  if s.app.session.isComplete then
    match s.view.dialog, s.view.content with
    | some buttons, _ => s.dialogMouse buttons m
    | none, .list controls => s.listMouse controls m
    | none, _ => (s, [])
  else (s, [])

/-- What a message changes. -/
def update (s : State) (message : Message) : State × List Effect :=
  s.after (s.app.update message)

/-- What an event of the terminal does. -/
def handle (s : State) : Event → State × List Effect
  | .key press => s.handleKey press
  | .mouse event => s.handleMouse event
  | .resize width height => s.update (.resize width height)
  | .focus _ => (s, [])
  | .paste _ => (s, [])

/-- The view of a route, or the list if there is nothing to show on the route. -/
def contentFor (a : App) : Route → Content
  | .list => .list []
  | .detail => if a.detail.isSome then .detail else .list []
  | .create => if a.create.isSome then .create else .list []

/-- Shows the view of a route. -/
def switchTo (s : State) (route : Route) : State :=
  let content := contentFor s.app route
  { app := s.app.navigate (.switchTo content.route), view := { s.view with content } }

/-- Opens a dialog. -/
def openModal (s : State) (modal : Modal) : State :=
  { app := s.app.navigate (.showModal modal), view := { s.view with dialog := some [] } }

/-- Closes the dialog. -/
def closeModal (s : State) : State :=
  { app := s.app.navigate .closeModal, view := { s.view with dialog := none } }

/-- Carries out an effect that changes what is on the screen; other effects change nothing. -/
def navigate (s : State) : Effect → State
  | .switchTo route => s.switchTo route
  | .showModal modal => s.openModal modal
  | .closeModal => s.closeModal
  | .quit => { s with app := s.app.navigate .quit }
  | _ => s

end State

end McpConsole.Console
