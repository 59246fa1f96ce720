import McpConsole.Console.Command
import McpConsole.Proofs.Query.Store

/-!
# Commands for effects

What `App.commands` makes of effects. A command says which effect it carries out
(`Command.effect`), and a fetch of the list its number (`Command.generation?`); with the access token
that is all there is to a command. `App.Translates` says of commands that they are those of effects
under an access token. It holds of one effect (`App.command_translates`) and of one list after the
other (`App.Translates.append`), hence of any number of effects (`App.commands_translates`).

`App.commands_faithful` adds what it comes to without an access token, and that only the result of the
last fetch is taken.
-/

namespace McpConsole.Console

open McpConsole.Query

namespace Effect

/-- Whether the effect is a copy to the clipboard. -/
def isCopy : Effect → Bool
  | .copy _ => true
  | _ => false

/-- Whether the effect is a fetch of the list. -/
def isFetch : Effect → Bool
  | .call .list => true
  | _ => false

end Effect

namespace Command

/-- The effect that a command carries out. -/
def effect : Command → Effect
  | .copy text => .copy text
  | .issue issued => .call issued.call

/-- The number of a fetch of the list. -/
def generation? : Command → Option Nat
  | .issue (.list _ generation) => some generation
  | _ => none

end Command

namespace App

theorem commands_cons (a : App) (effect : Effect) (effects : List Effect) :
    a.commands (effect :: effects) =
      (((a.command effect).1.commands effects).1,
        (a.command effect).2.toList ++ ((a.command effect).1.commands effects).2) := rfl

/-- Commands are those of effects under an access token, and `b` is what is known then: each effect
that is carried out outside has its command, in the same order, and the fetches of the list are
numbered on from the last one. Besides that they are issued nothing has changed. -/
structure Translates (a : App) (credential : String) (effects : List Effect) (b : App)
    (commands : List Command) : Prop where
  carriesOut : commands.map Command.effect = effects.filter Effect.isOutward
  bears : ∀ issued, .issue issued ∈ commands → issued.credential = credential
  numbers : commands.filterMap Command.generation? =
    List.range' (a.queries.generation credential + 1) (effects.countP Effect.isFetch)
  app : b = { a with queries := a.queries.beginTimes credential (effects.countP Effect.isFetch) }

variable {a b c : App} {credential : String}

theorem Translates.nil (a : App) (credential : String) : a.Translates credential [] a [] :=
  ⟨rfl, by simp, rfl, rfl⟩

theorem Translates.append {first second : List Effect} {before later : List Command}
    (hf : a.Translates credential first b before) (hs : b.Translates credential second c later) :
    a.Translates credential (first ++ second) c (before ++ later) where
  carriesOut := by rw [List.map_append, List.filter_append, hf.carriesOut, hs.carriesOut]
  bears issued hi := (List.mem_append.1 hi).elim (hf.bears issued) (hs.bears issued)
  numbers := by
    -- the second list is numbered on from where the first one has ended
    have hnumber : b.queries.generation credential =
        a.queries.generation credential + first.countP Effect.isFetch := by
      rw [hf.app, Store.generation_beginTimes]
    rw [List.filterMap_append, hf.numbers, hs.numbers, hnumber, List.countP_append,
      Nat.add_right_comm, List.range'_append_1]
  app := by rw [hs.app, hf.app, List.countP_append, Store.beginTimes_add]

/-- **What becomes of one effect** under an access token. -/
theorem command_translates (h : a.session.credential = some credential) (effect : Effect) :
    a.Translates credential [effect] (a.command effect).1 (a.command effect).2.toList := by
  have hkey : a.listKey? = some credential := h
  cases effect with
  | call call =>
    simp only [command, hkey]
    cases call with
    | list => exact ⟨rfl, by simp [issue, Issued.credential], rfl, rfl⟩
    | _ => exact ⟨rfl, by simp [issue, Issued.credential], rfl, rfl⟩
  | copy text => exact ⟨rfl, by simp [command], rfl, rfl⟩
  | _ => exact ⟨rfl, by simp [command], rfl, rfl⟩

/-- **What becomes of effects** under an access token. -/
theorem commands_translates (h : a.session.credential = some credential) (effects : List Effect) :
    a.Translates credential effects (a.commands effects).1 (a.commands effects).2 := by
  induction effects generalizing a with
  | nil => exact .nil a credential
  | cons effect effects ih =>
    have hfirst := command_translates h effect
    have hsession : (a.command effect).1.session.credential = some credential := by
      rw [hfirst.app]
      exact h
    rw [commands_cons]
    exact hfirst.append (ih hsession)

/-- Without an access token, an effect has a command only if it is a copy. -/
theorem command_of_none (h : a.session.credential = none) (effect : Effect) :
    (a.command effect).1 = a ∧
      (a.command effect).2.toList.map Command.effect = [effect].filter Effect.isCopy := by
  have hkey : a.listKey? = none := h
  cases effect with
  | call call =>
    simp only [command, hkey]
    exact ⟨trivial, rfl⟩
  | _ => exact ⟨rfl, rfl⟩

theorem commands_of_none (h : a.session.credential = none) (effects : List Effect) :
    (a.commands effects).1 = a ∧
      (a.commands effects).2.map Command.effect = effects.filter Effect.isCopy := by
  induction effects with
  | nil => exact ⟨rfl, rfl⟩
  | cons effect effects ih =>
    obtain ⟨happ, hcommand⟩ := command_of_none h effect
    rw [commands_cons, happ, List.map_append, hcommand, ih.2, ← List.filter_append]
    exact ⟨ih.1, rfl⟩

/-- **Commands are what the effects ask for.** Whatever is known and whatever the effects are: under an
access token, each effect that is carried out outside of the console has one command, in the order of
the effects, which says all that the effect says and, for a call, bears the access token; no other
effect has one. Fetches of the list are numbered on from the last one, one after the other, and then
the result of the last of them is taken and of no other fetch. Without an access token, only copies
have a command. Nothing changes but that the fetches are issued. -/
theorem commands_faithful (a : App) (effects : List Effect) :
    let b := (a.commands effects).1
    let commands := (a.commands effects).2
    let numbers := commands.filterMap Command.generation?
    (∀ credential, a.session.credential = some credential →
      a.Translates credential effects b commands ∧
        (numbers ≠ [] → ∀ number result,
          (b.queries.resolve credential number result).2 = true ↔
            numbers.getLast? = some number)) ∧
      (a.session.credential = none →
        commands.map Command.effect = effects.filter Effect.isCopy ∧ b = a) := by
  refine ⟨fun credential h => ?_, fun h => (commands_of_none h effects).symm⟩
  have ht := commands_translates h effects
  refine ⟨ht, fun hfetches number result => ?_⟩
  rw [ht.numbers] at hfetches ⊢
  have hcount : effects.countP Effect.isFetch ≠ 0 := by
    intro hzero
    rw [hzero] at hfetches
    exact hfetches rfl
  rw [List.getLast?_range', if_neg hcount, Option.some.injEq, ht.app]
  refine (Store.resolve_beginTimes_iff _ _ hcount number result).trans ?_
  omega

/-- Of two fetches, with a copy and a change of the screen between them, the first is not taken any
more. -/
theorem commands_faithful_twoFetches :
    let a := App.start .nord ⟨some "token", none, none⟩
    let effects := [.call .list, .copy "url", .quit, .call .list]
    (a.commands effects).2.filterMap Command.generation? = [1, 2] ∧
      (¬((a.commands effects).1.queries.resolve "token" 1 (.ok [])).2 = true) ∧
      ((a.commands effects).1.queries.resolve "token" 2 (.ok [])).2 = true := by
  intro a effects
  obtain ⟨ht, hlast⟩ := (a.commands_faithful effects).1 "token" rfl
  have hnumbers : (a.commands effects).2.filterMap Command.generation? = [1, 2] := ht.numbers
  rw [hnumbers] at hlast
  have htaken := hlast (by simp)
  refine ⟨hnumbers, fun h => ?_, (htaken 2 (.ok [])).2 rfl⟩
  cases (htaken 1 (.ok [])).1 h

end App

end McpConsole.Console
