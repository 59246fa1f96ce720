import McpConsole.Proofs.Console.Deeds
import McpConsole.Proofs.Console.Frames

/-!
# Courses of the console

A `Course` is all that happens to the console of a session, one thing after the other: the terminal
reports something, the console is drawn, time passes, or a call comes back. Calls come back in any
order, and with any outcome, and the clipboard does what it likes. `Course.state` is the console after
a number of steps, `Course.issued` the calls that the last of them issued, and `Course.waiting` the
calls that are still out, each with the moment at which it was issued. At moment 0 the console has
started.

A course has no end. What holds at each moment of every course holds in every finite run, since a
run can be continued by the passing of time.

`Course.IsFaithful` says that only calls come back that are out, and with an outcome that they can
have. `Course.step` says what a step does to the core of the console.
-/

namespace McpConsole.Console

open McpConsole.Query McpConsole.Screen

/-- What can happen to the console. -/
inductive Happening where
  /-- The terminal reports something. -/
  | event (event : Event)
  | drawn (screen : Rect)
  | tick
  /-- The time of the notice is over. -/
  | lapse
  /-- The call that waits at a place comes back. -/
  | arrival (place : Nat) (outcome : Outcome)
  deriving Inhabited

/-- Whether an outcome can be what has come of a call: any result, but of this very call. -/
def Issued.CanGive : Issued → Outcome → Prop
  | .list _ generation, .fetched other _ => other = generation
  | .delete _ id, .deleted other _ => other = id
  | .create _ _, .created _ => True
  | .update _ _, .updated _ => True
  | _, _ => False

/-- A call that is out, with the moment at which it was issued. -/
structure Ticket where
  moment : Nat
  issued : Issued
  deriving DecidableEq, Repr

instance : (issued : Issued) → (outcome : Outcome) → Decidable (issued.CanGive outcome)
  | .list _ generation, .fetched other _ => inferInstanceAs (Decidable (other = generation))
  | .delete _ id, .deleted other _ => inferInstanceAs (Decidable (other = id))
  | .create _ _, .created _ | .update _ _, .updated _ => .isTrue trivial
  | .list _ _, .deleted _ _ | .list _ _, .created _ | .list _ _, .updated _ | .list _ _, .remark _
  | .delete _ _, .fetched _ _ | .delete _ _, .created _ | .delete _ _, .updated _
  | .delete _ _, .remark _ | .create _ _, .fetched _ _ | .create _ _, .deleted _ _
  | .create _ _, .updated _ | .create _ _, .remark _ | .update _ _, .fetched _ _
  | .update _ _, .deleted _ _ | .update _ _, .created _ | .update _ _, .remark _ => .isFalse id

/-- Where a course stands after a step. -/
structure Stand where
  state : State
  /-- The calls that the step issued. -/
  issued : List Issued
  /-- The calls that are out. -/
  waiting : List Ticket

/-- What happens to the console, and the calls that are issued. `others` tells whether other calls
are still out. -/
def State.follow (s : State) (clipboard : Clipboard) (others : Bool) :
    Happening → State × List Issued
  | .event event => s.respond clipboard event
  | .drawn screen => (s.arrange screen, [])
  | .tick =>
    let (s, effects) := s.update .tick
    s.process clipboard effects
  | .lapse => ({ s with app := s.app.expireNotice }, [])
  | .arrival _ outcome =>
    let (s, effects) := s.deliver outcome others
    s.process clipboard effects

/-- What is left of the calls that are out. -/
def Happening.remaining (waiting : List Ticket) : Happening → List Ticket
  | .arrival place _ => waiting.eraseIdx place
  | _ => waiting

/-- Whether something can happen while calls are out. -/
def Happening.IsPossible (waiting : List Ticket) : Happening → Prop
  | .arrival place outcome =>
    ∃ ticket, waiting[place]? = some ticket ∧ ticket.issued.CanGive outcome
  | _ => True

instance (waiting : List Ticket) : (h : Happening) → Decidable (h.IsPossible waiting)
  | .arrival place outcome => inferInstanceAs
    (Decidable (∃ ticket, waiting[place]? = some ticket ∧ ticket.issued.CanGive outcome))
  | .event _ | .drawn _ | .tick | .lapse => .isTrue trivial

/-- A key is pressed. -/
def Happening.press (key : Key) : Happening :=
  .event (.key ⟨key, false⟩)

/-- The form on the screen is sent. -/
def Happening.save : Happening :=
  .event (.key ⟨.char 's', true⟩)

/-- Everything that happens to the console of a session. -/
structure Course where
  theme : Theme
  session : Session
  happening : Nat → Happening
  /-- The clipboard at each moment. -/
  clipboard : Nat → Clipboard

namespace Course

/-- Where a course stands at a moment. -/
def stand (c : Course) : Nat → Stand
  | 0 =>
    let start := State.start c.theme c.session
    let (state, issued) := start.process (c.clipboard 0) start.app.refresh
    ⟨state, issued, issued.map (⟨0, ·⟩)⟩
  | n + 1 =>
    let before := c.stand n
    let rest := (c.happening n).remaining before.waiting
    let (state, issued) :=
      before.state.follow (c.clipboard (n + 1)) (!rest.isEmpty) (c.happening n)
    ⟨state, issued, rest ++ issued.map (⟨n + 1, ·⟩)⟩

/-- The console at a moment. -/
def state (c : Course) (n : Nat) : State :=
  (c.stand n).state

/-- The calls that are issued at a moment. -/
def issued (c : Course) (n : Nat) : List Issued :=
  (c.stand n).issued

/-- The calls that are out at a moment. -/
def waiting (c : Course) (n : Nat) : List Ticket :=
  (c.stand n).waiting

/-- The core of the console at a moment. -/
def core (c : Course) (n : Nat) : Core :=
  (c.state n).core

/-- After a moment, a call that is out comes back with an outcome. -/
def Delivers (c : Course) (n : Nat) (ticket : Ticket) (outcome : Outcome) : Prop :=
  ∃ place, c.happening n = .arrival place outcome ∧ (c.waiting n)[place]? = some ticket

/-- After a moment, the dialog is closed, by a choice or without one. -/
def Closes (c : Course) (n : Nat) (choice : Option Choice) : Prop :=
  ∃ event, c.happening n = .event event ∧ ((c.state n).handle event).2 = Effect.closing choice

/-- Only calls come back that are out, with outcomes that they can have. -/
def IsFaithful (c : Course) : Prop :=
  ∀ n place outcome, c.happening n = .arrival place outcome →
    ∃ ticket, (c.waiting n)[place]? = some ticket ∧ ticket.issued.CanGive outcome

/-- After a moment, a deed is done to the core of the console. -/
structure Takes (c : Course) (n : Nat) (deed : Deed) : Prop where
  permits : (c.core n).Permits deed
  enact : (c.core (n + 1), c.issued (n + 1)) = (c.core n).enact deed
  closes : ∀ choice, deed = .answer choice ↔ c.Closes n choice
  comes : ∀ outcome, deed = .come outcome ↔ ∃ place, c.happening n = .arrival place outcome

namespace Takes

variable {c : Course} {n : Nat} {deed : Deed}

theorem core (h : c.Takes n deed) : c.core (n + 1) = ((c.core n).enact deed).1 :=
  congrArg Prod.fst h.enact

theorem issued (h : c.Takes n deed) : c.issued (n + 1) = ((c.core n).enact deed).2 :=
  congrArg Prod.snd h.enact

end Takes

variable (c : Course)

/-- The console has started: the list is fetched, unless the session lacks something. -/
theorem core_zero : (c.core 0, c.issued 0) =
    if c.session.isComplete then (State.start c.theme c.session).core.issue .list
    else ((State.start c.theme c.session).core, []) := by
  have h : (c.core 0, c.issued 0) = Core.of ((State.start c.theme c.session).process
    (c.clipboard 0) (State.start c.theme c.session).app.refresh) := rfl
  have hs : (State.start c.theme c.session).app.session = c.session := rfl
  rw [h, App.refresh, hs]
  split
  · rw [State.process_call, State.issue_core]
  · rw [State.process_nil]
    rfl

/-- At the start, nothing has changed but the store of fetches. -/
theorem exists_core_zero :
    ∃ queries, c.core 0 = { (State.start c.theme c.session).core with queries } := by
  have h := congrArg Prod.fst c.core_zero
  dsimp only at h
  rw [h]
  split
  · exact ⟨_, Core.issue_fst _ _⟩
  · exact ⟨_, rfl⟩

/-- At the start, no other call than for the list is issued. -/
theorem call_of_mem_zero {issued : Issued} (h : issued ∈ c.issued 0) : issued.call = .list := by
  have hz := congrArg Prod.snd c.core_zero
  dsimp only at hz
  rw [hz] at h
  split at h
  · exact (Core.issue_snd_of_mem h).2
  · simp at h

theorem core_succ (n : Nat) : (c.core (n + 1), c.issued (n + 1)) =
    Core.of ((c.state n).follow (c.clipboard (n + 1))
      (!((c.happening n).remaining (c.waiting n)).isEmpty) (c.happening n)) := rfl

theorem waiting_succ (n : Nat) : c.waiting (n + 1) =
    (c.happening n).remaining (c.waiting n) ++ (c.issued (n + 1)).map (⟨n + 1, ·⟩) := rfl

/-- **Every step does a deed** to the core of the console. -/
theorem step (n : Nat) : ∃ deed, c.Takes n deed := by
  have hs := c.core_succ n
  have closes_of {deed : Deed} (plain : deed.isPlain = true)
      (h : ∀ event, c.happening n ≠ .event event) :
      ∀ choice, deed = .answer choice ↔ c.Closes n choice := by
    intro choice
    constructor
    · rintro rfl
      cases plain
    · rintro ⟨event, he, -⟩
      exact absurd he (h event)
  cases hh : c.happening n with
  | event event =>
    rw [hh] at hs
    obtain ⟨deed, hd⟩ := (c.state n).handle_does event
    refine ⟨deed, hd.permits, hs.trans (hd.enact _), fun choice => ?_, fun outcome => ?_⟩
    · rw [hd.answers, Closes, hh]
      simp
    · simp [hd.isNew, hh]
  | drawn screen =>
    rw [hh] at hs
    obtain ⟨deed, hd⟩ := (c.state n).arrange_does screen
    have he := hd.enact (c.clipboard (n + 1))
    rw [State.process_nil] at he
    refine ⟨deed, hd.permits, hs.trans he, fun choice => ?_, fun outcome => ?_⟩
    · rw [hd.answers, Closes, hh]
      cases choice <;> simp [Effect.closing, State.choose, State.dismiss]
    · simp [hd.isNew, hh]
  | tick =>
    rw [hh] at hs
    refine ⟨.rest, trivial, hs.trans ?_, closes_of rfl (by simp [hh]), by simp [hh]⟩
    simp only [State.follow, State.update, State.after, App.update, State.process_nil]
    rfl
  | lapse =>
    rw [hh] at hs
    exact ⟨.rest, trivial, hs, closes_of rfl (by simp [hh]), by simp [hh]⟩
  | arrival place outcome =>
    rw [hh] at hs
    refine ⟨.come outcome, trivial, hs.trans ((c.state n).deliver_does _ outcome _), ?_, ?_⟩
    · intro choice
      simp [Closes, hh]
    · intro other
      simp only [hh, Deed.come.injEq, Happening.arrival.injEq]
      constructor
      · intro h
        exact ⟨place, rfl, h⟩
      · rintro ⟨_, _, h⟩
        exact h

/-- The session stays the same. -/
theorem core_session (n : Nat) : (c.core n).session = c.session := by
  induction n with
  | zero =>
    obtain ⟨queries, h⟩ := c.exists_core_zero
    rw [h]
    rfl
  | succ n ih =>
    obtain ⟨deed, hd⟩ := c.step n
    rw [hd.core, Core.enact_session, ih]

/-! ### Courses that are written out -/

/-- A session of an administrator that lacks nothing. -/
def administrator : Session :=
  ⟨some "token", some "Admin", some "user"⟩

/-- A server that can be edited as it is. -/
def sample (id : String) : Server :=
  { (default : Server) with id, details := { (default : Details) with url := "url" } }

/-- The course in which a list of things happens, and then time passes. -/
def ofList (session : Session) (happenings : List Happening) : Course where
  theme := .nord
  session := session
  happening n := happenings.getD n .tick
  clipboard _ := noClipboard

theorem isFaithful_ofList {session : Session} {happenings : List Happening}
    (h : ∀ n < happenings.length,
      ((ofList session happenings).happening n).IsPossible ((ofList session happenings).waiting n)) :
    (ofList session happenings).IsFaithful := by
  intro n place outcome hn
  by_cases hl : n < happenings.length
  · have hp := h n hl
    rw [hn] at hp
    exact hp
  · have hn : happenings.getD n .tick = .arrival place outcome := hn
    rw [List.getD_eq_getElem?_getD, List.getElem?_eq_none (Nat.le_of_not_lt hl)] at hn
    cases hn

end Course

end McpConsole.Console
