import McpConsole.Api.Registry
import McpConsole.Console.Process

/-!
# Runs

The console together with a registry that answers its calls, without a clipboard. Calls that were
issued wait until they are carried out, and what has come of them waits until it is delivered, both
in the order in which they were issued.
-/

namespace McpConsole.Console

open McpConsole.Api

/-- The console with its calls and a registry that answers them. -/
structure Run where
  state : State
  registry : Registry
  /-- The calls that were not carried out yet. -/
  issued : List Issued
  /-- What has come of calls and was not delivered yet. -/
  outcomes : List Outcome

namespace Run

/-- How many calls have not come back yet. -/
def inFlight (r : Run) : Nat :=
  r.issued.length + r.outcomes.length

/-- Carries out effects, and keeps the calls that were issued. -/
def process (r : Run) (effects : List Effect) : Run :=
  let (state, issued) := r.state.process noClipboard effects
  { r with state, issued := r.issued ++ issued }

/-- Carries out what the user's doing leads to, and gives it. -/
def perform (r : Run) (result : State × List Effect) : Run × List Effect :=
  ({ r with state := result.1 }.process result.2, result.2)

/-- Carries out a call. -/
def answer (r : Run) (issued : Issued) : Run :=
  let (registry, result) := r.registry.answer issued.credential issued.call
  { r with registry, outcomes := r.outcomes ++ [issued.outcome result] }

/-- Carries out all calls. -/
def answerAll (r : Run) : Run :=
  r.issued.foldl answer { r with issued := [] }

/-- Delivers the outcome that has waited longest, and gives it with what it leads to. -/
def complete (r : Run) : Run × Option (Outcome × List Effect) :=
  let r := r.answerAll
  match r.outcomes with
  | [] => (r, none)
  | outcome :: outcomes =>
    let r := { r with outcomes }
    let (r, effects) := r.perform (r.state.deliver outcome (!outcomes.isEmpty))
    (r, some (outcome, effects))

/-- Delivers outcomes a number of times. -/
def completeTimes (r : Run) : Nat → Run × List (Outcome × List Effect)
  | 0 => (r, [])
  | times + 1 =>
    match r.complete with
    | (r, none) => (r, [])
    | (r, some delivered) =>
      let (r, rest) := r.completeTimes times
      (r, delivered :: rest)

/-- Delivers outcomes until no call is out. An outcome leads to no more than one fetch of the
list, and a list leads to no call. -/
def settle (r : Run) : Run × List (Outcome × List Effect) :=
  r.completeTimes (2 * r.inFlight)

end Run

end McpConsole.Console
