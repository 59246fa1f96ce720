import McpConsole.Api.Error
import McpConsole.Profile

/-!
# Failures

Why the program ends without having done what it was asked for: what it was doing, and the causes
from the nearest to the deepest.
-/

namespace McpConsole.CommandLine

/-- A failure with its causes. -/
structure Failure where
  message : String
  causes : List String
  deriving DecidableEq, Repr

namespace Failure

/-- The lines of a text, after the open line `line`. -/
def linesFrom (line : List Char) : List Char → List (List Char)
  | [] => [line]
  | c :: cs => if c = '\n' then line :: linesFrom [] cs else linesFrom (line ++ [c]) cs

/-- A text with a beginning before its first line and as many blanks before every other. -/
def hanging (first : List Char) (cs : List Char) : List Char :=
  first ++ List.intercalate ('\n' :: List.replicate first.length ' ') (linesFrom [] cs)

/-- The number of a cause, filled up with blanks. -/
def label (n : Nat) : List Char :=
  let digits := (toString n).toList
  List.replicate (5 - digits.length) ' ' ++ digits ++ [':', ' ']

/-- A cause on lines of its own, with its number if there are several. -/
def causeText (isNumbered : Bool) (cause : String) (n : Nat) : List Char :=
  '\n' :: hanging (if isNumbered then label n else List.replicate 4 ' ') cause.toList

/-- The text of a failure. -/
def text (failure : Failure) : String :=
  let causes := (failure.causes.zipIdx.map fun (cause, n) =>
    causeText (1 < failure.causes.length) cause n).flatten
  let listed := if causes.isEmpty then [] else "\n\nCaused by:".toList ++ causes
  "Error: " ++ failure.message ++ String.ofList listed ++ "\n"

/-- A failure without a cause. -/
def plain (message : String) : Failure :=
  ⟨message, []⟩

/-- A failure of a call. A request that could not be sent and an answer that cannot be understood
have a deeper cause. -/
def ofCall (doing : String) (error : Api.Error) : Failure :=
  match error with
  | .transport => ⟨doing, [error.message, Api.transportDetail]⟩
  | .decode => ⟨doing, [error.message, Api.decodeDetail]⟩
  | _ => ⟨doing, [error.message]⟩

/-- A failure to read or write a profile. -/
def ofProfile (doing : String) (cause : DiskError) : Failure :=
  ⟨doing, [Profile.errorMessage cause, cause.message]⟩

/-- A failure to read or write another file. -/
def ofDisk (doing : String) (cause : DiskError) : Failure :=
  ⟨doing, [cause.message]⟩

end Failure

end McpConsole.CommandLine
