import Mathlib.Data.List.Perm.Basic
import Mathlib.Logic.Function.Iterate
import McpConsole.Proofs.Console.Rounds
import McpConsole.Proofs.Console.Translation

/-!
# Effects one by one

Rounds take effects together. What a round does is said here effect by effect: `State.carryOut` is
what one effect comes to, and `State.carryOutAll` carries out one after the other and gathers what
they lead to. A round carries out its effects in the order `Effect.inRound`, in which each of them
stands once (`Effect.inRound_perm`); this is `State.round_eq_carryOutAll`. What the clipboard does is
left open throughout.

`State.process_drops_nothing` puts two rounds together: nothing is left, and each effect that was
given or was led to is carried out once.
-/

namespace McpConsole.Console

namespace Effect

/-- The call that an effect asks for. -/
def call? : Effect → Option Api.Call
  | .call asked => some asked
  | _ => none

/-- The text that an effect copies. -/
def text? : Effect → Option String
  | .copy content => some content
  | _ => none

/-- The order in which a round carries out effects: changes of the screen, messages, calls, and
copies, which are answered last. -/
def inRound (effects : List Effect) : List Effect :=
  effects.filter isNavigation ++ ((effects.filterMap message?).map send ++
    ((effects.filterMap call?).map call ++ (effects.filterMap text?).map copy))

theorem inRound_cons_perm (effect : Effect) (effects : List Effect) :
    (inRound (effect :: effects)).Perm (effect :: inRound effects) := by
  unfold inRound
  cases effect with
  | send => exact List.perm_middle
  | call => exact (List.perm_middle.append_left _).trans List.perm_middle
  | copy =>
    exact ((List.perm_middle.append_left _).append_left _).trans
      ((List.perm_middle.append_left _).trans List.perm_middle)
  | _ => exact .refl _

/-- **A round leaves out no effect** and takes none twice. -/
theorem inRound_perm (effects : List Effect) : (inRound effects).Perm effects := by
  induction effects with
  | nil => exact .refl _
  | cons effect effects ih => exact (inRound_cons_perm effect effects).trans (ih.cons effect)

/-- Calls stay in their order. -/
theorem calls_inRound (effects : List Effect) :
    (inRound effects).filterMap call? = effects.filterMap call? := by
  have hnavigation : (effects.filter isNavigation).filterMap call? = [] := by
    rw [List.filterMap_eq_nil_iff]
    intro effect he
    have hn := (List.mem_filter.1 he).2
    cases effect <;> first | rfl | cases hn
  have hcall : call? ∘ call = some := rfl
  have hsend : call? ∘ send = fun _ => none := rfl
  have hcopy : call? ∘ copy = fun _ => none := rfl
  simp only [inRound, List.filterMap_append, hnavigation, List.filterMap_map, hsend, hcall, hcopy,
    List.filterMap_some, List.filterMap_none, List.nil_append, List.append_nil]

end Effect

namespace App

/-- Commands do not depend on the throbber, and leave it alone. -/
theorem command_busy (a : App) (throbber : Nat) (isExecuting : Bool) (effect : Effect) :
    App.command { a with throbber, isExecuting } effect =
      ({ (a.command effect).1 with throbber, isExecuting }, (a.command effect).2) := by
  cases effect with
  | call call =>
    have hkey : App.listKey? { a with throbber, isExecuting } = a.listKey? := rfl
    simp only [command, hkey]
    cases a.listKey? with
    | none => rfl
    | some credential => cases call <;> rfl
  | _ => rfl

theorem commands_busy (a : App) (throbber : Nat) (isExecuting : Bool) (effects : List Effect) :
    App.commands { a with throbber, isExecuting } effects =
      ({ (a.commands effects).1 with throbber, isExecuting }, (a.commands effects).2) := by
  induction effects generalizing a with
  | nil => rfl
  | cons effect effects ih => rw [commands_cons, command_busy, ih, commands_cons]

/-- Commands change only the store of fetches. -/
theorem exists_commands_queries (a : App) (effects : List Effect) :
    ∃ queries, (a.commands effects).1 = { a with queries } := by
  cases h : a.session.credential with
  | none => exact ⟨a.queries, (commands_of_none h effects).1⟩
  | some credential => exact ⟨_, (commands_translates h effects).app⟩

/-- What outward effects come to does not depend on how calls and copies are mixed. -/
theorem commands_outward (clipboard : Clipboard) (a : App) (effects : List Effect) :
    let outward := a.commands (effects.filter Effect.isOutward)
    let calls := a.commands ((effects.filterMap Effect.call?).map .call)
    outward.1 = calls.1 ∧
      outward.2.filterMap Command.issued? = calls.2.filterMap Command.issued? ∧
      outward.2.filterMap (Command.reply? clipboard) =
        (effects.filterMap Effect.text?).map fun text => .remark (copyRemark (clipboard text)) := by
  dsimp only
  induction effects generalizing a with
  | nil => exact ⟨rfl, rfl, rfl⟩
  | cons effect effects ih =>
    cases effect with
    | call call =>
      -- the call may be a fetch, which the rest of the effects finds in the store
      obtain ⟨happ, hissued, hreply⟩ := ih (a.command (.call call)).1
      have hfilter : (Effect.call call :: effects).filter Effect.isOutward =
          .call call :: effects.filter Effect.isOutward := rfl
      have hcalls : ((Effect.call call :: effects).filterMap Effect.call?).map Effect.call =
          .call call :: (effects.filterMap Effect.call?).map .call := rfl
      rw [hfilter, hcalls, commands_cons, commands_cons]
      refine ⟨happ, ?_, ?_⟩
      · rw [List.filterMap_append, List.filterMap_append, hissued]
      · rw [List.filterMap_append, hreply, State.command_isQuiet clipboard a (.call call) rfl]
        rfl
    | copy text =>
      obtain ⟨happ, hissued, hreply⟩ := ih a
      have hfilter : (Effect.copy text :: effects).filter Effect.isOutward =
          .copy text :: effects.filter Effect.isOutward := rfl
      have hcopy : a.command (.copy text) = (a, some (.copy text)) := rfl
      rw [hfilter, commands_cons, hcopy]
      refine ⟨happ, hissued, ?_⟩
      rw [List.filterMap_append, hreply]
      rfl
    | _ => exact ih a

end App

namespace State

variable (clipboard : Clipboard)

/-! ### One effect -/

/-- What one effect comes to. A copy is answered at once, with a remark on what the clipboard did. -/
def carryOut (s : State) : Effect → Round
  | .send message => ⟨(s.update message).1, (s.update message).2, []⟩
  | .call call => ⟨(s.issue call).1, [], (s.issue call).2⟩
  | .copy text =>
    let (s, effects) := s.update (.completed (.remark (copyRemark (clipboard text))))
    ⟨s, effects, []⟩
  | effect => ⟨s.navigate effect, [], []⟩

/-- A round, and what comes after it. -/
def Round.followedBy (r : Round) (later : State → Round) : Round :=
  ⟨(later r.state).state, r.effects ++ (later r.state).effects, r.issued ++ (later r.state).issued⟩

/-- What effects come to one after the other, with all that they lead to. -/
def carryOutAll (s : State) : List Effect → Round
  | [] => ⟨s, [], []⟩
  | effect :: effects => (s.carryOut clipboard effect).followedBy fun s => s.carryOutAll effects

theorem carryOutAll_append (s : State) (first second : List Effect) :
    s.carryOutAll clipboard (first ++ second) =
      (s.carryOutAll clipboard first).followedBy fun s => s.carryOutAll clipboard second := by
  induction first generalizing s with
  | nil => rfl
  | cons effect first ih =>
    simp only [List.cons_append, carryOutAll, ih, Round.followedBy, List.append_assoc]

/-! ### Effects of one kind -/

theorem carryOut_navigation (s : State) {effect : Effect} (h : effect.isNavigation = true) :
    s.carryOut clipboard effect = ⟨s.navigate effect, [], []⟩ := by
  cases effect <;> first | rfl | cases h

theorem carryOutAll_navigation (s : State) {effects : List Effect}
    (h : ∀ effect ∈ effects, effect.isNavigation = true) :
    s.carryOutAll clipboard effects = ⟨effects.foldl navigate s, [], []⟩ := by
  induction effects generalizing s with
  | nil => rfl
  | cons effect effects ih =>
    obtain ⟨hfirst, hrest⟩ := List.forall_mem_cons.1 h
    rw [carryOutAll, carryOut_navigation clipboard s hfirst, Round.followedBy, ih _ hrest]
    rfl

theorem carryOutAll_send (s : State) (messages : List Message) :
    s.carryOutAll clipboard (messages.map .send) =
      ⟨(s.updateAll messages).1, (s.updateAll messages).2, []⟩ := by
  induction messages generalizing s with
  | nil => rfl
  | cons message messages ih =>
    rw [List.map_cons, carryOutAll, Round.followedBy, carryOut, ih]
    rfl

theorem carryOutAll_copy (s : State) (texts : List String) :
    s.carryOutAll clipboard (texts.map .copy) =
      let replies := texts.map fun text =>
        Message.completed (.remark (copyRemark (clipboard text)))
      ⟨(s.updateAll replies).1, (s.updateAll replies).2, []⟩ := by
  induction texts generalizing s with
  | nil => rfl
  | cons text texts ih =>
    rw [List.map_cons, carryOutAll, Round.followedBy, carryOut, ih]
    rfl

/-- Taking note of calls twice is as good as once. -/
theorem noteIssued_append (s : State) (first second : List Issued) :
    (s.noteIssued first).noteIssued second = s.noteIssued (first ++ second) := by
  cases first with
  | nil => rfl
  | cons issued first =>
    cases second with
    | nil => rw [noteIssued_nil, List.append_nil]
    | cons => rfl

/-- Taking note of calls does not change the commands that come later. -/
theorem commands_noteIssued (s : State) (issued : List Issued) (effects : List Effect) :
    ({ s.noteIssued issued with app := ((s.noteIssued issued).app.commands effects).1 } : State) =
        ({ s with app := (s.app.commands effects).1 } : State).noteIssued issued ∧
      ((s.noteIssued issued).app.commands effects).2 = (s.app.commands effects).2 := by
  cases issued with
  | nil => exact ⟨rfl, rfl⟩
  | cons first rest =>
    obtain ⟨queries, hframe⟩ := s.app.exists_commands_queries effects
    simp only [noteIssued, List.isEmpty_cons, Bool.false_eq_true, if_false, App.commands_busy, hframe]
    exact ⟨trivial, trivial⟩

theorem carryOutAll_call (s : State) (calls : List Api.Call) :
    s.carryOutAll clipboard (calls.map .call) =
      let result := s.app.commands (calls.map .call)
      let issued := result.2.filterMap Command.issued?
      ⟨({ s with app := result.1 } : State).noteIssued issued, [], issued⟩ := by
  induction calls generalizing s with
  | nil => rfl
  | cons call calls ih =>
    let t : State := { s with app := (s.app.command (.call call)).1 }
    let first := (s.app.command (.call call)).2.toList.filterMap Command.issued?
    -- the throbber is started before the other commands are known, which do not depend on it
    have hissue : s.issue call = (t.noteIssued first, first) := rfl
    obtain ⟨hstate, hcommands⟩ := t.commands_noteIssued first (calls.map .call)
    simp only [List.map_cons, carryOutAll, Round.followedBy, carryOut, hissue, ih, hstate, hcommands,
      noteIssued_append, App.commands_cons, List.filterMap_append, List.nil_append]
    rfl

/-! ### Rounds -/

/-- **A round carries out its effects one by one.** -/
theorem round_eq_carryOutAll (s : State) (effects : List Effect) :
    s.round clipboard effects = s.carryOutAll clipboard (Effect.inRound effects) := by
  have hnavigation : ∀ effect ∈ effects.filter Effect.isNavigation, effect.isNavigation = true :=
    fun effect he => (List.mem_filter.1 he).2
  rw [Effect.inRound, carryOutAll_append, carryOutAll_navigation clipboard s hnavigation]
  obtain ⟨happ, hissued, hreply⟩ := ((effects.filter Effect.isNavigation).foldl navigate s
    |>.updateAll (effects.filterMap Effect.message?)).1.app.commands_outward clipboard effects
  simp only [round, Round.followedBy, carryOutAll_append, carryOutAll_send, carryOutAll_call,
    carryOutAll_copy, happ, hissued, hreply, List.map_map, List.nil_append, List.append_nil]
  rfl

/-! ### All rounds -/

/-- The next round, of what is left of a round. -/
def Round.next (r : Round) : Round :=
  let s := r.state.round clipboard r.effects
  ⟨s.state, s.effects, r.issued ++ s.issued⟩

/-- A second round leaves nothing. -/
theorem round_round_effects (s : State) (effects : List Effect) :
    ((s.round clipboard effects).state.round clipboard
      (s.round clipboard effects).effects).effects = [] :=
  round_isLast _ clipboard _ (s.round_isPlain clipboard effects)

/-- Two rounds are all that is done. -/
theorem two_rounds (s : State) (effects : List Effect) :
    (Round.next clipboard)^[2] ⟨s, effects, []⟩ =
      ⟨(s.process clipboard effects).1, [], (s.process clipboard effects).2⟩ := by
  simp only [Function.iterate_succ, Function.iterate_zero, Function.comp_apply, id_eq, Round.next,
    round_round_effects, process_eq, List.nil_append]

/-- What is done with effects: they are carried out, and then what the first round leaves. -/
theorem process_eq_carryOutAll (s : State) (effects : List Effect) :
    s.carryOutAll clipboard (Effect.inRound effects ++
        Effect.inRound (s.round clipboard effects).effects) =
      ⟨(s.process clipboard effects).1, (s.round clipboard effects).effects,
        (s.process clipboard effects).2⟩ := by
  rw [carryOutAll_append, ← round_eq_carryOutAll, Round.followedBy, ← round_eq_carryOutAll,
    process_eq, round_round_effects, List.append_nil]

/-- Where nothing is left, nothing more comes of it. -/
theorem Round.next_of_nil {r : Round} (h : r.effects = []) : r.next clipboard = r := by
  obtain ⟨s, effects, issued⟩ := r
  obtain rfl : effects = [] := h
  exact congrArg (Round.mk s []) (List.append_nil issued)

/-! ### Calls -/

/-- No message changes the session. -/
theorem update_session (s : State) (message : Message) :
    (s.update message).1.app.session = s.app.session := by
  have hlist (a : App) : a.invalidateList.1.session = a.session := by
    unfold App.invalidateList
    split <;> rfl
  cases message with
  | chosen choice =>
    cases choice with
    | confirm =>
      simp only [update, after, App.update, App.confirmDelete]
      split <;> rfl
    | cancel => rfl
  | completed outcome =>
    cases outcome with
    | fetched =>
      simp only [update, after, App.update, App.applyOutcome, App.applyFetched]
      split
      · rfl
      · split <;> rfl
    | deleted _ result | created result | updated result =>
      cases result with
      | error => rfl
      | ok => exact hlist _
    | remark => rfl
  | _ => rfl

/-- The calls of effects, each under the access token if there is one. -/
def callsUnder (credential : Option String) (effects : List Effect) : List (String × Api.Call) :=
  (effects.filterMap Effect.call?).flatMap fun call => credential.toList.map fun token => (token, call)

/-- What is issued for a call. -/
theorem issue_asks (s : State) (call : Api.Call) :
    (s.issue call).1.app.session = s.app.session ∧
      (s.issue call).2.map (fun issued => (issued.credential, issued.call)) =
        callsUnder s.app.session.credential [.call call] := by
  obtain ⟨app, view⟩ := s
  cases h : app.session.credential with
  | none =>
    have hkey : app.listKey? = none := h
    simp only [issue, App.command, hkey]
    exact ⟨rfl, rfl⟩
  | some credential =>
    have hkey : app.listKey? = some credential := h
    simp only [issue, App.command, hkey]
    cases call <;> exact ⟨rfl, rfl⟩

/-- What is issued for one effect, which does not change the session. -/
theorem carryOut_asks (s : State) (effect : Effect) :
    (s.carryOut clipboard effect).state.app.session = s.app.session ∧
      (s.carryOut clipboard effect).issued.map (fun issued => (issued.credential, issued.call)) =
        callsUnder s.app.session.credential [effect] := by
  cases effect with
  | send message => exact ⟨s.update_session message, rfl⟩
  | copy text => exact ⟨s.update_session _, rfl⟩
  | call call => exact s.issue_asks call
  | _ => exact ⟨rfl, rfl⟩

/-- **What is issued for effects**: each call once, in their order. -/
theorem carryOutAll_issued (s : State) (effects : List Effect) :
    (s.carryOutAll clipboard effects).issued.map (fun issued => (issued.credential, issued.call)) =
      callsUnder s.app.session.credential effects := by
  induction effects generalizing s with
  | nil => rfl
  | cons effect effects ih =>
    obtain ⟨hsession, hissued⟩ := carryOut_asks clipboard s effect
    have hcons : callsUnder s.app.session.credential (effect :: effects) =
        callsUnder s.app.session.credential [effect] ++
          callsUnder s.app.session.credential effects := by
      rw [callsUnder, callsUnder, callsUnder, ← List.flatMap_append, ← List.filterMap_append]
      rfl
    rw [carryOutAll, Round.followedBy, List.map_append, hissued, ih, hsession, hcons]

/-- **No effect is dropped, and none is carried out twice.** Whatever is known and on the screen,
whatever the effects are and whatever the clipboard does: two rounds leave nothing, and no further round
changes anything. They carry out the effects that were given and, after them, the effects that those lead
to, each of them once: a change of the screen is made, a message is delivered, a copy is answered by one
remark that is delivered at once, and a call is issued under the access token, if there is one. -/
theorem process_drops_nothing (clipboard : Clipboard) (s : State) (effects : List Effect) :
    let last := (s.process clipboard effects).1
    let issued := (s.process clipboard effects).2
    (∀ more, (Round.next clipboard)^[more + 2] ⟨s, effects, []⟩ = ⟨last, [], issued⟩) ∧
      ∃ led : List Effect,
        let handled := Effect.inRound effects ++ Effect.inRound led
        s.carryOutAll clipboard handled = ⟨last, led, issued⟩ ∧
          handled.Perm (effects ++ led) ∧
          issued.map (fun issued => (issued.credential, issued.call)) =
            callsUnder s.app.session.credential (effects ++ led) := by
  have hhandled := s.process_eq_carryOutAll clipboard effects
  refine ⟨fun more => ?_, (s.round clipboard effects).effects, hhandled, ?_, ?_⟩
  · rw [Function.iterate_add_apply, two_rounds]
    exact Function.iterate_fixed (Round.next_of_nil clipboard rfl) more
  · exact (Effect.inRound_perm effects).append (Effect.inRound_perm _)
  · have hissued := s.carryOutAll_issued clipboard
      (Effect.inRound effects ++ Effect.inRound (s.round clipboard effects).effects)
    rw [hhandled] at hissued
    simpa only [callsUnder, List.filterMap_append, Effect.calls_inRound] using hissued

end State

end McpConsole.Console
