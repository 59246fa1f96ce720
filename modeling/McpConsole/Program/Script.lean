import McpConsole.Disk.Basic
import McpConsole.Http.Message

/-!
# What a program asks of the outside

A `Script` is a program that reads and writes files, reads lines, prints and sends requests. It is a
tree: each node is one thing that is asked for, and what follows depends on the answer. What the
answers are is not a matter of the script.
-/

namespace McpConsole.Program

/-- A program that gives an `α`. -/
inductive Script (α : Type) : Type where
  /-- Nothing more is asked for. -/
  | done (result : α)
  /-- The text of a file. -/
  | readText (path : String) (next : Except DiskError String → Script α)
  /-- Folders above a path. -/
  | makeParents (path : String) (next : Except DiskError Unit → Script α)
  /-- A new content of a file. -/
  | write (path content : String) (next : Except DiskError Unit → Script α)
  /-- A line of the input, with its end. -/
  | readLine (next : String → Script α)
  /-- A text for the output. -/
  | print (text : String) (next : Script α)
  /-- The answer to a request, if there is one. -/
  | send (request : Http.Request) (next : Option Http.Response → Script α)

namespace Script

/-- The script that goes on with what another one gives. -/
def bind {α β : Type} : Script α → (α → Script β) → Script β
  | .done result, f => f result
  | .readText path next, f => .readText path fun text => (next text).bind f
  | .makeParents path next, f => .makeParents path fun made => (next made).bind f
  | .write path content next, f => .write path content fun written => (next written).bind f
  | .readLine next, f => .readLine fun line => (next line).bind f
  | .print text next, f => .print text (next.bind f)
  | .send request next, f => .send request fun response => (next response).bind f

instance : Monad Script where
  pure := .done
  bind := Script.bind

end Script

end McpConsole.Program
