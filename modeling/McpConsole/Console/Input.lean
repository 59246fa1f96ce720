import McpConsole.Console.Form

/-!
# Keys and the mouse

What the terminal reports, and what keys do to a form. Of the keys that are held, only the control
key matters.
-/

namespace McpConsole.Console

/-- A key. -/
inductive Key where
  | char (c : Char)
  | enter
  | escape
  | tab
  | backTab
  | up
  | down
  | left
  | right
  | home
  | toEnd
  | backspace
  | delete
  /-- Any other key. -/
  | other
  deriving DecidableEq, Repr

/-- A key that was pressed. -/
structure KeyPress where
  key : Key
  /-- Whether the control key is held. -/
  control : Bool
  deriving DecidableEq, Repr

/-- What was done with the mouse. -/
inductive MouseAction where
  | leftDown
  | scrollUp
  | scrollDown
  /-- Anything else. -/
  | other
  deriving DecidableEq, Repr

/-- What was done with the mouse, and where. -/
structure MouseEvent where
  action : MouseAction
  column : Nat
  row : Nat
  deriving DecidableEq, Repr

/-- What the terminal reports. -/
inductive Event where
  | key (press : KeyPress)
  | mouse (event : MouseEvent)
  | resize (width height : Nat)
  | focus (gained : Bool)
  | paste (text : String)
  deriving DecidableEq, Repr

/-- What a key asks of the view that shows a form. -/
inductive FormAction where
  | none
  | submit
  | cancel
  deriving DecidableEq, Repr

namespace Form

/-- What a key does to a choice. -/
def chooseByKey (f : Form) : Key → Form
  | .left => f.choose (-1)
  | .right => f.choose 1
  | .char ' ' => f.choose 1
  | _ => f

/-- What a key does to a line of text. -/
def editByKey (press : KeyPress) (t : TextInput) : TextInput :=
  match press.key with
  | .left => t.left
  | .right => t.right
  | .home => t.home
  | .toEnd => t.toEnd
  | .backspace => t.backspace
  | .delete => t.delete
  | .char c => if press.control then t else t.insert c
  | _ => t

/-- What a key does to the field that has the focus. -/
def changeByKey (f : Form) (press : KeyPress) : Form :=
  if f.focus.isChoice then f.chooseByKey press.key else f.edit (editByKey press)

/-- What a key does to a form. -/
def handleKey (f : Form) (press : KeyPress) : Form × FormAction :=
  match press.key with
  | .char 's' => if press.control then (f, .submit) else (f.changeByKey press, .none)
  | .escape => (f, .cancel)
  | .tab => (f.focusNext, .none)
  | .down => (f.focusNext, .none)
  | .backTab => (f.focusPrevious, .none)
  | .up => (f.focusPrevious, .none)
  | .enter => if f.focus = .auth then (f, .submit) else (f.focusNext, .none)
  | _ => (f.changeByKey press, .none)

end Form

end McpConsole.Console
