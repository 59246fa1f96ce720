import McpConsole.Api.Call
import McpConsole.Console.Dialog

/-!
# Outcomes, messages and effects

What the parts of the console tell each other. An `Effect` is something that a part asks for, a
`Message` something that has happened, and an `Outcome` what has come of a call or of a copy.
-/

namespace McpConsole.Console

open McpConsole.Api

/-- The main views. -/
inductive Route where
  | list
  | detail
  | create
  deriving DecidableEq, Repr, Inhabited

/-- The dialogs. -/
inductive Modal where
  | confirmDelete
  deriving DecidableEq, Repr

/-- What has come of something that takes its time. A failure is known by its text. -/
inductive Outcome where
  /-- The list of a numbered fetch. -/
  | fetched (generation : Nat) (result : Except String (List Server))
  | deleted (id : String) (result : Except String Unit)
  | created (result : Except String Server)
  | updated (result : Except String Server)
  /-- A remark. -/
  | remark (text : String)

/-- What has happened. -/
inductive Message where
  /-- Some time has passed. -/
  | tick
  /-- The screen has another size. -/
  | resize (width height : Nat)
  | completed (outcome : Outcome)
  /-- A button of the dialog was chosen. -/
  | chosen (choice : Choice)
  /-- The dialog was left without a choice. -/
  | dismissed

/-- What a part of the console asks for. -/
inductive Effect where
  | call (call : Call)
  /-- A text for the clipboard. -/
  | copy (text : String)
  /-- A message for the console itself. -/
  | send (message : Message)
  | switchTo (route : Route)
  | showModal (modal : Modal)
  | closeModal
  | quit

namespace Effect

/-- Whether the effect changes what is on the screen. -/
def isNavigation : Effect → Bool
  | .switchTo _ => true
  | .showModal _ => true
  | .closeModal => true
  | .quit => true
  | _ => false

/-- The message that an effect sends. -/
def message? : Effect → Option Message
  | .send message => some message
  | _ => none

/-- Whether the effect is carried out outside of the console. -/
def isOutward : Effect → Bool
  | .call _ => true
  | .copy _ => true
  | _ => false

end Effect

end McpConsole.Console
