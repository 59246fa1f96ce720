import McpConsole.Console.Command
import McpConsole.Console.View

/-!
# Carrying out effects

Effects are carried out in rounds. A round first changes what is on the screen, then delivers the
messages that are sent, and then turns the rest into commands; copies are answered at once, by the
clipboard. What
the messages and the answers lead to is left for the next round. Messages never lead to copies or to
other messages, so there are at most two rounds.

`State.process` gives the console when nothing is left, and the calls that were issued.
-/

namespace McpConsole.Console

namespace Effect

/-- Whether a round of effects can lead to another one because of this effect. -/
def isAnswered : Effect → Bool
  | .send _ => true
  | .copy _ => true
  | _ => false

end Effect

/-- A bound for the rounds that effects take. -/
def roundBound (effects : List Effect) : Nat :=
  if effects.isEmpty then 0 else if effects.any Effect.isAnswered then 2 else 1

namespace App

theorem invalidateList_isPlain (a : App) :
    a.invalidateList.2.any Effect.isAnswered = false := by
  unfold invalidateList
  split
  · rfl
  · dsimp only; split <;> rfl

/-- What a message leads to is neither a copy nor another message. -/
theorem update_isPlain (a : App) (message : Message) :
    (a.update message).2.any Effect.isAnswered = false := by
  cases message with
  | tick => rfl
  | resize => rfl
  | dismissed => rfl
  | chosen choice =>
    cases choice with
    | confirm => simp only [update, confirmDelete]; split <;> rfl
    | cancel => rfl
  | completed outcome =>
    cases outcome with
    | fetched => rfl
    | deleted _ result =>
      cases result
      · rfl
      · exact invalidateList_isPlain _
    | created result =>
      cases result
      · rfl
      · exact invalidateList_isPlain _
    | updated result =>
      cases result
      · rfl
      · exact invalidateList_isPlain _
    | remark => rfl

end App

namespace State

/-- Delivers messages one after the other, and gives what they lead to. -/
def updateAll (s : State) : List Message → State × List Effect
  | [] => (s, [])
  | message :: messages =>
    let (s, first) := s.update message
    let (s, rest) := s.updateAll messages
    (s, first ++ rest)

/-- Takes note that calls were issued. The throbber starts anew if none was out before. -/
def noteIssued (s : State) (issued : List Issued) : State :=
  if issued.isEmpty then s
  else
    let throbber := if s.app.isExecuting then s.app.throbber else 0
    { s with app := { s.app with throbber, isExecuting := true } }

/-- What a round gives. -/
structure Round where
  state : State
  /-- What is left for the next round. -/
  effects : List Effect
  /-- The calls that were issued. -/
  issued : List Issued

variable (s : State) (clipboard : Clipboard)

/-- A round of effects. -/
def round (effects : List Effect) : Round :=
  let s := (effects.filter Effect.isNavigation).foldl navigate s
  let (s, sent) := s.updateAll (effects.filterMap Effect.message?)
  let (app, commands) := s.app.commands (effects.filter Effect.isOutward)
  let issued := commands.filterMap Command.issued?
  let s := { s with app }.noteIssued issued
  let (s, replied) := s.updateAll ((commands.filterMap (Command.reply? clipboard)).map .completed)
  ⟨s, sent ++ replied, issued⟩

theorem updateAll_isPlain (messages : List Message) :
    (s.updateAll messages).2.any Effect.isAnswered = false := by
  induction messages generalizing s with
  | nil => rfl
  | cons message messages ih =>
    simp only [updateAll, List.any_append, ih, Bool.or_false]
    exact s.app.update_isPlain message

/-- What is left after a round leads to nothing more than one further round. -/
theorem round_isPlain (effects : List Effect) :
    (s.round clipboard effects).effects.any Effect.isAnswered = false := by
  simp only [round, List.any_append, updateAll_isPlain, Bool.or_false]

theorem command_isQuiet (a : App) (effect : Effect) (h : effect.isAnswered = false) :
    (a.command effect).2.toList.filterMap (Command.reply? clipboard) = [] := by
  cases effect with
  | copy => cases h
  | call call =>
    simp only [App.command]
    split
    · cases call <;> rfl
    · rfl
  | _ => rfl

theorem commands_isQuiet (a : App) (effects : List Effect)
    (h : effects.any Effect.isAnswered = false) :
    (a.commands effects).2.filterMap (Command.reply? clipboard) = [] := by
  induction effects generalizing a with
  | nil => rfl
  | cons effect effects ih =>
    simp only [List.any_cons, Bool.or_eq_false_iff] at h
    simp only [App.commands, List.filterMap_append, command_isQuiet clipboard a effect h.1, ih _ h.2,
      List.append_nil]

theorem messages_isQuiet (effects : List Effect) (h : effects.any Effect.isAnswered = false) :
    effects.filterMap Effect.message? = [] := by
  rw [List.filterMap_eq_nil_iff]
  intro effect member
  have plain : effect.isAnswered = false := by
    simpa using List.any_eq_false.1 h effect member
  cases effect with
  | send => cases plain
  | _ => rfl

/-- A round without messages and copies leaves nothing. -/
theorem round_isLast (effects : List Effect)
    (h : effects.any Effect.isAnswered = false) : (s.round clipboard effects).effects = [] := by
  have outward : (effects.filter Effect.isOutward).any Effect.isAnswered = false := by
    rw [List.any_eq_false] at h ⊢
    exact fun effect member => h effect (List.mem_filter.1 member).1
  simp only [round, messages_isQuiet effects h, commands_isQuiet clipboard _ _ outward, updateAll,
    List.map_nil, List.append_nil]

theorem roundBound_round (effects : List Effect) (h : effects.isEmpty = false) :
    roundBound (s.round clipboard effects).effects < roundBound effects := by
  cases answered : effects.any Effect.isAnswered with
  | true =>
    simp only [roundBound, h, answered, round_isPlain]
    split <;> simp
  | false =>
    simp [roundBound, h, answered, round_isLast s clipboard effects answered]

/-- Carries out effects until nothing is left, and gives the calls that were issued. -/
def process (s : State) (clipboard : Clipboard) : List Effect → State × List Issued
  | [] => (s, [])
  | effect :: effects =>
    let round := s.round clipboard (effect :: effects)
    let (last, later) := round.state.process clipboard round.effects
    (last, round.issued ++ later)
termination_by effects => roundBound effects
decreasing_by exact roundBound_round s clipboard (effect :: effects) rfl

/-- Hands an event to the console and carries out what it leads to. -/
def respond (event : Event) : State × List Issued :=
  let (s, effects) := s.handle event
  s.process clipboard effects

/-- Delivers what has come of a call. `others` tells whether other calls are still out. -/
def deliver (outcome : Outcome) (others : Bool) : State × List Effect :=
  let (s, effects) := s.update (.completed outcome)
  ({ s with app := { s.app with isExecuting := others } }, effects)

end State

end McpConsole.Console
