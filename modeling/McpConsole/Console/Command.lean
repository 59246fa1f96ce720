import McpConsole.Console.App

/-!
# Commands

What is carried out outside of the console: a copy to the clipboard, or a call that is issued under
the session's access token. What becomes of a copy is up to the `Clipboard`. `commands` turns effects
into commands; fetches of the list are numbered on the way. Without an access token no call is issued.
-/

namespace McpConsole.Console

open McpConsole.Api

/-- A call that was issued, with the access token that it goes out under. -/
inductive Issued where
  | list (credential : String) (generation : Nat)
  | delete (credential id : String)
  | create (credential : String) (details : Details)
  | update (credential : String) (revision : Revision)
  deriving DecidableEq, Repr

namespace Issued

/-- The access token of a call. -/
def credential : Issued → String
  | .list credential _ => credential
  | .delete credential _ => credential
  | .create credential _ => credential
  | .update credential _ => credential

/-- What is asked of the management API. -/
def call : Issued → Call
  | .list _ _ => .list
  | .delete _ id => .delete id
  | .create _ details => .create details
  | .update _ revision => .update revision

/-- The servers of an answer. -/
def serversOf : Answer → Except Error (List Server)
  | .servers servers => .ok servers
  | _ => .error .decode

/-- The one server of an answer. -/
def serverOf : Answer → Except Error Server
  | .server server => .ok server
  | _ => .error .decode

/-- What comes of a call with a result. Of a failure, the text is kept. -/
def outcome (issued : Issued) (result : Except Error Answer) : Outcome :=
  match issued with
  | .list _ generation => .fetched generation ((result.bind serversOf).mapError Error.message)
  | .delete _ id => .deleted id ((result.map fun _ => ()).mapError Error.message)
  | .create _ _ => .created ((result.bind serverOf).mapError Error.message)
  | .update _ _ => .updated ((result.bind serverOf).mapError Error.message)

end Issued

/-- What is carried out outside of the console. -/
inductive Command where
  | copy (text : String)
  | issue (issued : Issued)
  deriving DecidableEq, Repr

/-- A clipboard takes a text that is copied, or says why it cannot. -/
abbrev Clipboard := String → Except String Unit

/-- Where there is no clipboard, no text is taken. -/
def noClipboard : Clipboard := fun _ =>
  .error ("Unknown error while interacting with the clipboard: " ++
    "X11 server connection timed out because it was unreachable")

/-- What is said of a copy. -/
def copyRemark : Except String Unit → String
  | .ok () => "Copied to clipboard"
  | .error cause => "Clipboard error: " ++ cause

namespace Command

/-- The call of a command. -/
def issued? : Command → Option Issued
  | .issue issued => some issued
  | .copy _ => none

/-- What comes of a command at once: the clipboard is asked, and a call is not waited for. -/
def reply? (clipboard : Clipboard) : Command → Option Outcome
  | .copy text => some (.remark (copyRemark (clipboard text)))
  | .issue _ => none

end Command

namespace App

/-- The command for a call under an access token. -/
def issue (a : App) (credential : String) : Call → App × Command
  | .list =>
    let (queries, generation) := a.queries.begin credential
    ({ a with queries }, .issue (.list credential generation))
  | .delete id => (a, .issue (.delete credential id))
  | .create details => (a, .issue (.create credential details))
  | .update revision => (a, .issue (.update credential revision))

/-- The command for an effect, if it has one. -/
def command (a : App) : Effect → App × Option Command
  | .copy text => (a, some (.copy text))
  | .call call =>
    match a.listKey? with
    | some credential =>
      let (a, command) := a.issue credential call
      (a, some command)
    | none => (a, none)
  | _ => (a, none)

/-- The commands for effects, in their order. -/
def commands (a : App) : List Effect → App × List Command
  | [] => (a, [])
  | effect :: effects =>
    let (a, first) := a.command effect
    let (a, rest) := a.commands effects
    (a, first.toList ++ rest)

end App

end McpConsole.Console
