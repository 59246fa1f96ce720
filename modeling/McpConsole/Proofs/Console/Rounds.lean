import McpConsole.Console.Process

/-!
# What effects come to

`State.process` in equations. `State.process_eq` says that two rounds are always enough, whatever
the effects are, so that no proof has to follow the recursion again. The other equations carry out
one effect at a time: a change of the screen comes first (`State.process_navigation`), a message is
delivered and what it leads to is carried out (`State.process_send`), and a call is issued
(`State.process_call`).
-/

namespace McpConsole.Console

namespace State

/-- The console once a call is issued, and the call. Without an access token nothing is issued. -/
def issue (s : State) (call : Api.Call) : State × List Issued :=
  let (app, command) := s.app.command (.call call)
  let issued := command.toList.filterMap Command.issued?
  ({ s with app }.noteIssued issued, issued)

@[simp] theorem noteIssued_nil (s : State) : s.noteIssued [] = s := rfl

variable (s : State) (clipboard : Clipboard)

@[simp] theorem round_nil : s.round clipboard [] = ⟨s, [], []⟩ := rfl

@[simp] theorem process_nil : s.process clipboard [] = (s, []) := by
  rw [process]

theorem process_cons (effect : Effect) (effects : List Effect) :
    s.process clipboard (effect :: effects) =
      (((s.round clipboard (effect :: effects)).state.process clipboard
          (s.round clipboard (effect :: effects)).effects).1,
        (s.round clipboard (effect :: effects)).issued ++
          ((s.round clipboard (effect :: effects)).state.process clipboard
            (s.round clipboard (effect :: effects)).effects).2) := by
  rw [process]

/-- Effects that are not answered are carried out in one round. -/
theorem process_of_isPlain {effects : List Effect} (h : effects.any Effect.isAnswered = false) :
    s.process clipboard effects =
      ((s.round clipboard effects).state, (s.round clipboard effects).issued) := by
  cases effects with
  | nil => simp
  | cons effect effects =>
    rw [process_cons, round_isLast s clipboard _ h, process_nil, List.append_nil]

/-- **Two rounds are enough** for all effects. -/
theorem process_eq (effects : List Effect) :
    s.process clipboard effects =
      (((s.round clipboard effects).state.round clipboard (s.round clipboard effects).effects).state,
        (s.round clipboard effects).issued ++
          ((s.round clipboard effects).state.round clipboard
            (s.round clipboard effects).effects).issued) := by
  cases effects with
  | nil => simp
  | cons effect effects =>
    rw [process_cons, process_of_isPlain _ _ (s.round_isPlain clipboard (effect :: effects))]

/-- A change of the screen is made before anything else. -/
theorem process_navigation {effect : Effect} (h : effect.isNavigation = true)
    (effects : List Effect) :
    s.process clipboard (effect :: effects) = (s.navigate effect).process clipboard effects := by
  have hr : s.round clipboard (effect :: effects) = (s.navigate effect).round clipboard effects := by
    cases effect <;> first | rfl | cases h
  rw [process_eq, process_eq, hr]

/-- A change of the screen alone issues nothing. -/
theorem process_navigate {effect : Effect} (h : effect.isNavigation = true) :
    s.process clipboard [effect] = (s.navigate effect, []) := by
  rw [process_navigation s clipboard h, process_nil]

/-- A message is delivered, and what it leads to is carried out. -/
theorem process_send (message : Message) :
    s.process clipboard [.send message] =
      (s.update message).1.process clipboard (s.update message).2 := by
  have hr : s.round clipboard [.send message] =
      ⟨(s.update message).1, (s.update message).2, []⟩ := by
    simp [round, updateAll, App.commands, Effect.isNavigation, Effect.message?, Effect.isOutward]
  rw [process_cons, hr]
  rfl

/-- A copy is answered at once, by a remark that leads to nothing. -/
theorem process_copy (text : String) :
    s.process clipboard [.copy text] =
      ((s.update (.completed (.remark (copyRemark (clipboard text))))).1, []) := by
  have hr : s.round clipboard [.copy text] =
      ⟨(s.update (.completed (.remark (copyRemark (clipboard text))))).1, [], []⟩ := rfl
  rw [process_cons, hr, process_nil]
  rfl

theorem process_call (call : Api.Call) : s.process clipboard [.call call] = s.issue call := by
  have hc : s.app.commands [.call call] =
      ((s.app.command (.call call)).1, (s.app.command (.call call)).2.toList) := by
    simp [App.commands]
  have hr : s.round clipboard [.call call] =
      let commands := (s.app.commands [.call call]).2
      let issued := commands.filterMap Command.issued?
      let replied := ({ s with app := (s.app.commands [.call call]).1 }.noteIssued issued).updateAll
        ((commands.filterMap (Command.reply? clipboard)).map .completed)
      ⟨replied.1, replied.2, issued⟩ := rfl
  rw [process_of_isPlain s clipboard rfl, hr, hc]
  simp only [command_isQuiet clipboard s.app (.call call) rfl, List.map_nil, updateAll, issue]

end State

end McpConsole.Console
