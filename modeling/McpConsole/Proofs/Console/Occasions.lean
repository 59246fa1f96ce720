import McpConsole.Proofs.Console.Deletion
import McpConsole.Proofs.Console.Events
import McpConsole.Proofs.Console.Freshness

/-!
# What calls are issued for

A call is issued when the console starts, when the user asks for it, or to fetch the list again
after a change. `State.Occasion` lists what the call of a step can be issued for.
`Course.calls_accounted` says that a step issues a call just when there is such an occasion, and one
call at most, so that nothing is asked for twice and nothing is tried again.
-/

namespace McpConsole.Console

namespace State

variable {s : State}

/-- What the call of a step can be issued for. -/
inductive Occasion (s : State) : Happening → Api.Call → Prop
  /-- An event asks for it. -/
  | asked {event : Event} {call : Api.Call} (asks : s.Asks event call) :
    s.Occasion (.event event) call
  /-- The dialog is closed by confirming that a server is to be deleted. -/
  | confirmed {event : Event} {id : String} (answers : s.Answers event (some .confirm))
    (pending : s.app.pendingDelete = some id) : s.Occasion (.event event) (.delete id)
  /-- A server was deleted, made or changed. -/
  | changed {place : Nat} {outcome : Outcome} (isChange : outcome.isChange = true) :
    s.Occasion (.arrival place outcome) .list

theorem process_quiet (s : State) (clipboard : Clipboard) {effects : List Effect}
    (h : Effect.Quiet effects) : (s.process clipboard effects).2 = [] := by
  cases h with
  | nothing => rw [process_nil]
  | navigation h => rw [process_navigate s clipboard h]
  | copy => rw [process_copy]

variable {clipboard : Clipboard}

/-- What is asked for is issued. -/
theorem Asks.respond (hc : s.app.session.isComplete = true) {event : Event} {call : Api.Call}
    (h : s.Asks event call) : call ∈ (s.respond clipboard event).2.map Issued.call := by
  obtain ⟨deed, hd⟩ := s.handle_does event
  have henact := hd.enact clipboard
  rw [h.handle, process_call, issue_core] at henact
  have hsession : (s.handle event).1.core.session = s.core.session := by
    rw [← Core.issue_session _ call, henact, Core.enact_session]
  obtain ⟨credential, hk⟩ := Session.exists_credential hc
  obtain ⟨issued, hi, hcall⟩ := Core.issue_snd ((congrArg _ hsession).trans hk) call
  have hr : (s.respond clipboard event).2 = [issued] := by
    rw [← hi, henact, ← hd.enact clipboard]
    rfl
  rw [hr]
  simp [hcall]

/-- Only an open dialog is answered. -/
theorem Answers.isAsking {event : Event} {choice : Option Choice} (h : s.Answers event choice) :
    s.core.isAsking = true := by
  cases h with
  | yes isAsking => exact isAsking
  | no isAsking => exact isAsking
  | enter isAsking => exact isAsking
  | click shows => exact congrArg Option.isSome shows

/-- What is confirmed is issued. -/
theorem Answers.respond (hc : s.app.session.isComplete = true) {event : Event} {id : String}
    (h : s.Answers event (some .confirm)) (hp : s.app.pendingDelete = some id) :
    .delete id ∈ (s.respond clipboard event).2.map Issued.call := by
  obtain ⟨deed, hd⟩ := s.handle_does event
  obtain rfl := (hd.answers _).2 (h.handle hc)
  obtain ⟨credential, hk⟩ := Session.exists_credential hc
  have hr : (s.respond clipboard event).2 = [.delete credential id] := by
    rw [← Core.enact_confirm (k := s.core) hk hp, ← hd.enact clipboard]
    rfl
  rw [hr]
  exact List.mem_singleton_self _

/-- What an event issues has an occasion. -/
theorem Occasion.of_respond (hc : s.app.session.isComplete = true) {event : Event} {issued : Issued}
    (h : issued ∈ (s.respond clipboard event).2) : s.Occasion (.event event) issued.call := by
  obtain ⟨deed, hd⟩ := s.handle_does event
  have hl := s.handle_leads hc event
  have hr : s.respond clipboard event =
      (s.handle event).1.process clipboard (s.handle event).2 := rfl
  rw [hr] at h
  generalize he : (s.handle event).2 = effects at hl h
  cases hl with
  | quiet quiet =>
    rw [process_quiet _ clipboard quiet] at h
    cases h
  | @call call asks =>
    have hissue := congrArg Prod.snd (issue_core (s.handle event).1 call)
    rw [process_call] at h
    rw [(Core.issue_snd_of_mem (hissue ▸ h)).2]
    exact .asked asks
  | @closing choice answers =>
    obtain rfl := (hd.answers choice).2 he
    have henact := congrArg Prod.snd (hd.enact clipboard)
    rw [he] at henact
    have hcause := (Core.enact_snd_of_mem (henact ▸ h)).2
    cases issued with
    | list => simp [Issued.call, Core.Causes] at hcause
    | create => cases hcause
    | update => cases hcause
    | delete credential id =>
      obtain ⟨ha, hp⟩ := hcause
      cases ha
      exact .confirmed answers hp

/-- **An event issues a call just when there is an occasion.** -/
theorem mem_respond_iff (hc : s.app.session.isComplete = true) (event : Event) (call : Api.Call) :
    call ∈ (s.respond clipboard event).2.map Issued.call ↔ s.Occasion (.event event) call := by
  constructor
  · intro h
    obtain ⟨issued, hi, rfl⟩ := List.mem_map.1 h
    exact .of_respond hc hi
  · intro h
    cases h with
    | asked asks => exact asks.respond hc
    | confirmed answers pending => exact answers.respond hc pending

end State

/-- The list is fetched again just after a change. -/
theorem Core.Keeps.mem_receive_iff {k : Core} {credential : String}
    {entry : Query.Entry (List Server)} (h : k.Keeps credential entry) (outcome : Outcome)
    (call : Api.Call) : call ∈ (k.receive outcome).2.map Issued.call ↔
      outcome.isChange = true ∧ call = .list := by
  obtain ⟨_, _, _, _, rfl, he⟩ | ⟨hc, l, he, hl⟩ | ⟨hc, -, l, he, -⟩ := k.receive_cases outcome <;>
    rw [he]
  · simp [Outcome.isChange]
  · rw [(h.of_alike hl).refetch.1]
    simp [hc, Issued.call]
  · simp [hc]

namespace Course

/-- What is asked of the management API at a moment. -/
def calls (c : Course) (n : Nat) : List Api.Call :=
  (c.issued n).map Issued.call

variable {c : Course}

/-- The store keeps an entry for the list from the start. -/
theorem exists_keeps (hs : c.session.isComplete = true) (n : Nat) :
    ∃ credential entry, (c.core n).Keeps credential entry := by
  induction n with
  | zero =>
    obtain ⟨credential, entry, _, h⟩ := tracks_zero hs
    exact ⟨credential, entry, h.keeps⟩
  | succ n ih =>
    obtain ⟨credential, entry, h⟩ := ih
    obtain ⟨deed, hd⟩ := c.step n
    rw [hd.core]
    cases h.turn deed with
    | fetch issued keeps => exact ⟨credential, _, keeps⟩
    | take result come issued keeps => exact ⟨credential, _, keeps⟩
    | drop generation result come late enact =>
      rw [enact]
      exact ⟨credential, entry, h⟩
    | leave issued keeps => exact ⟨credential, entry, keeps⟩

theorem calls_zero (hs : c.session.isComplete = true) : c.calls 0 = [.list] := by
  obtain ⟨credential, hk⟩ := Session.exists_credential hs
  have hz := congrArg Prod.snd c.core_zero
  rw [if_pos hs, Core.issue_list (k := (State.start c.theme c.session).core) hk] at hz
  dsimp only at hz
  rw [calls, hz]
  rfl

theorem length_calls_le (n : Nat) : (c.calls n).length ≤ 1 := by
  rw [calls, List.length_map]
  cases h : c.issued n with
  | nil => simp
  | cons issued rest =>
    have hi : c.issued n = [issued] := issued_of_mem (h ▸ List.mem_cons_self)
    rw [← h, hi]
    simp

/-- **A step issues a call just when there is an occasion.** -/
theorem mem_calls_iff (hs : c.session.isComplete = true) (n : Nat) (call : Api.Call) :
    call ∈ c.calls (n + 1) ↔ (c.state n).Occasion (c.happening n) call := by
  have hc : (c.state n).app.session.isComplete = true := (congrArg _ (c.core_session n)).trans hs
  have hi := congrArg Prod.snd (c.core_succ n)
  dsimp only at hi
  cases hh : c.happening n with
  | event event =>
    rw [hh] at hi
    rw [calls, hi]
    exact State.mem_respond_iff hc event call
  | arrival place outcome =>
    obtain ⟨deed, hd⟩ := c.step n
    obtain rfl := (hd.comes outcome).2 ⟨place, hh⟩
    obtain ⟨credential, entry, hk⟩ := exists_keeps hs n
    rw [calls, hd.issued, Core.enact, hk.mem_receive_iff]
    constructor
    · rintro ⟨ho, rfl⟩
      exact .changed ho
    · intro ho
      cases ho with
      | changed isChange => exact ⟨isChange, rfl⟩
  -- there is no occasion in what is left, and nothing is issued
  | drawn screen =>
    rw [hh] at hi
    rw [calls, hi]
    refine iff_of_false (by simp [State.follow, Core.of]) fun ho => ?_
    cases ho
  | lapse =>
    rw [hh] at hi
    rw [calls, hi]
    refine iff_of_false (by simp [State.follow, Core.of]) fun ho => ?_
    cases ho
  | tick =>
    rw [hh] at hi
    rw [calls, hi]
    refine iff_of_false ?_ fun ho => ?_
    · simp [State.follow, Core.of, State.update, State.after, App.update]
    · cases ho

/-- A step on which the list is not fetched, and at which nothing comes back, leaves the store of
fetches alone. -/
theorem queries_succ (hs : c.session.isComplete = true) (n : Nat)
    (ha : ∀ place outcome, c.happening n ≠ .arrival place outcome) (hl : .list ∉ c.calls (n + 1)) :
    (c.state (n + 1)).app.queries = (c.state n).app.queries := by
  obtain ⟨deed, hd⟩ := c.step n
  have hq : (c.core (n + 1)).queries = (c.core n).queries := by
    rw [hd.core]
    refine Core.enact_queries _ ?_ fun outcome ho => ?_
    · rintro rfl
      obtain ⟨credential, entry, hk⟩ := exists_keeps hs n
      refine hl ?_
      rw [calls, hd.issued, Core.enact, hk.issue_list.1]
      exact List.mem_singleton_self _
    · obtain ⟨place, he⟩ := (hd.comes outcome).1 ho
      exact ha place outcome he
  exact hq

/-- **Every call is accounted for** in every course of a complete session. At the start the list is
fetched. A step issues one call at most, and just when there is an occasion for it; a dialog that is
confirmed is always one. The store of fetches changes only when something comes back, or when there
is an occasion to fetch the list. -/
theorem calls_accounted (c : Course) (hs : c.session.isComplete = true) :
    c.calls 0 = [.list] ∧ ∀ n,
      (c.calls (n + 1)).length ≤ 1 ∧
      (∀ call, call ∈ c.calls (n + 1) ↔ (c.state n).Occasion (c.happening n) call) ∧
      (∀ event, c.happening n = .event event → (c.state n).Answers event (some .confirm) →
        ∃ id, .delete id ∈ c.calls (n + 1)) ∧
      ((∀ place outcome, c.happening n ≠ .arrival place outcome) →
        ¬(c.state n).Occasion (c.happening n) .list →
          (c.state (n + 1)).app.queries = (c.state n).app.queries) := by
  refine ⟨calls_zero hs, fun n => ⟨length_calls_le _, mem_calls_iff hs n, fun event he ha => ?_,
    fun ha ho => queries_succ hs n ha fun hl => ho ((mem_calls_iff hs n _).1 hl)⟩⟩
  obtain ⟨id, hp⟩ := Option.isSome_iff_exists.1 ((c.dialogAgrees n).pending.trans ha.isAsking)
  exact ⟨id, (mem_calls_iff hs n _).2 (he ▸ .confirmed ha hp)⟩

/-- An administrator deletes a server. -/
def clearing : Course :=
  ofList administrator
    [.arrival 0 (.fetched 1 (.ok [sample "a"])), .press (.char 'd'), .press (.char 'y'),
      .arrival 0 (.deleted "a" (.ok ()))]

/-- The delete is issued when the dialog is confirmed, and the list is fetched once it is done. -/
theorem calls_accounted_clearing :
    .delete "a" ∈ clearing.calls 3 ∧ .list ∈ clearing.calls 4 ∧ .list ∉ clearing.calls 5 := by
  obtain ⟨-, h⟩ := calls_accounted clearing (by decide +kernel)
  have asking : (clearing.core 2).isAsking = true := by decide +kernel
  have pending : (clearing.state 2).app.pendingDelete = some "a" := by decide +kernel
  refine ⟨((h 2).2.1 _).2 (.confirmed (.yes asking (.inl rfl)) pending),
    ((h 3).2.1 _).2 (.changed rfl), fun hl => ?_⟩
  cases ((h 4).2.1 _).1 hl

end Course

end McpConsole.Console
