/-!
# The dialog that asks for a confirmation

A question with two buttons, of which one has the focus. Each button knows for itself whether it has
the focus. When a question is put, the focus is on the button that refuses. Whether the dialog is open
is not known here.
-/

namespace McpConsole.Console

/-- How grave a message is. -/
inductive Severity where
  | info
  | success
  | warning
  | error
  deriving DecidableEq, Repr, Inhabited

/-- The answer that a button gives. -/
inductive Choice where
  | confirm
  | cancel
  deriving DecidableEq, Repr

/-- A button of a dialog. -/
structure Button where
  label : String
  choice : Choice
  /-- Whether the button is drawn in the colour of the dialog's severity. -/
  isPrimary : Bool
  isFocused : Bool
  deriving DecidableEq, Repr

/-- What a dialog is opened with. -/
structure Question where
  title : Option String
  message : Option String
  severity : Option Severity
  confirmLabel : Option String
  cancelLabel : Option String
  deriving DecidableEq, Repr, Inhabited

/-- A dialog. Before its first question it has no buttons. -/
structure Dialog where
  title : Option String
  message : Option String
  severity : Severity
  buttons : List Button
  deriving DecidableEq, Repr, Inhabited

namespace Dialog

/-- The place of the button that has the focus. -/
def focused (d : Dialog) : Option Nat :=
  d.buttons.findIdx? Button.isFocused

/-- The choice of the button that has the focus. -/
def choice? (d : Dialog) : Option Choice :=
  (d.focused.bind fun i => d.buttons[i]?).map Button.choice

/-- Gives the focus to the button at a place, and takes it from all others. -/
def focus (d : Dialog) (place : Nat) : Dialog :=
  { d with buttons := d.buttons.mapIdx fun i button => { button with isFocused := i == place } }

/-- Moves the focus to the next button, going round. -/
def focusNext (d : Dialog) : Dialog :=
  if d.buttons.isEmpty then d
  else d.focus ((d.focused.map fun i => (i + 1) % d.buttons.length).getD 0)

/-- Moves the focus to the button before, going round. -/
def focusPrevious (d : Dialog) : Dialog :=
  if d.buttons.isEmpty then d
  else d.focus ((d.focused.map fun i => (i + d.buttons.length - 1) % d.buttons.length).getD 0)

/-- The dialog that puts a question. -/
def ask (q : Question) : Dialog :=
  let buttons : List Button := [⟨q.confirmLabel.getD "Confirm", .confirm, true, false⟩,
    ⟨q.cancelLabel.getD "Cancel", .cancel, false, false⟩]
  Dialog.focus ⟨q.title, q.message, q.severity.getD .info, buttons⟩ 1

end Dialog

end McpConsole.Console
