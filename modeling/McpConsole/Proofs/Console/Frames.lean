import McpConsole.Proofs.Console.Core

/-!
# What deeds do

What a deed leaves as it was, and which call it issues. A deed issues one call at most, and
`Core.enact_snd_of_mem` says for every call which deeds can issue it. What comes back does one of
three things, by `Core.receive_cases`.
-/

namespace McpConsole.Console

open McpConsole.Query

/-- Whether an outcome tells of a change that was made to the servers. -/
def Outcome.isChange : Outcome → Bool
  | .deleted _ (.ok _) => true
  | .created (.ok _) => true
  | .updated (.ok _) => true
  | _ => false

namespace Core

/-! ### Calls -/

/-- The three parts of the dialog: whether it is on the screen, the open modal, and the server that
is to be deleted. -/
def dialogue (k : Core) : Bool × Option Modal × Option String :=
  (k.isAsking, k.modal, k.pendingDelete)

theorem dialogue_eq_iff {k : Core} {isAsking : Bool} {modal : Option Modal}
    {pending : Option String} : k.dialogue = (isAsking, modal, pending) ↔
      k.isAsking = isAsking ∧ k.modal = modal ∧ k.pendingDelete = pending := by
  simp only [dialogue, Prod.mk.injEq]

@[simp] theorem issue_dialogue (k : Core) (call : Api.Call) :
    (k.issue call).1.dialogue = k.dialogue := by
  rw [issue_fst]
  rfl

/-- Where the user is: the route, the view on the screen, the server that is shown alone and the
form of a new one. -/
def place (k : Core) : Route × Route × Option Detail × Option Form :=
  (k.route, k.shown, k.detail, k.create)

theorem place_eq_iff {k : Core} {route shown : Route} {detail : Option Detail}
    {create : Option Form} : k.place = (route, shown, detail, create) ↔
      k.route = route ∧ k.shown = shown ∧ k.detail = detail ∧ k.create = create := by
  simp only [place, Prod.mk.injEq]

@[simp] theorem issue_place (k : Core) (call : Api.Call) : (k.issue call).1.place = k.place := by
  rw [issue_fst]
  rfl

/-- With an access token, a call is issued. -/
theorem issue_snd {k : Core} {credential : String} (h : k.session.credential = some credential)
    (call : Api.Call) : ∃ issued, (k.issue call).2 = [issued] ∧ issued.call = call := by
  unfold issue
  rw [h]
  cases call <;> exact ⟨_, rfl, rfl⟩

/-- Only a fetch of the list is numbered in the store of fetches. -/
theorem issue_queries {k : Core} {call : Api.Call} (h : call ≠ .list) :
    (k.issue call).1.queries = k.queries := by
  unfold issue
  split
  · rfl
  · cases call with
    | list => exact absurd rfl h
    | _ => rfl

/-- A call is issued as it was asked for, and alone. -/
theorem issue_snd_of_mem {k : Core} {call : Api.Call} {issued : Issued}
    (h : issued ∈ (k.issue call).2) : (k.issue call).2 = [issued] ∧ issued.call = call := by
  unfold issue at h ⊢
  split at h
  · simp at h
  · cases call <;> simp_all [Issued.call]

@[simp] theorem refetch_session (k : Core) : k.refetch.1.session = k.session := by
  unfold refetch
  split
  · rfl
  · dsimp only
    split
    · exact issue_session _ _
    · rfl

@[simp] theorem refetch_dialogue (k : Core) : k.refetch.1.dialogue = k.dialogue := by
  unfold refetch
  split
  · rfl
  · dsimp only
    split
    · exact issue_dialogue _ _
    · rfl

@[simp] theorem refetch_place (k : Core) : k.refetch.1.place = k.place := by
  unfold refetch
  split
  · rfl
  · dsimp only
    split
    · exact issue_place _ _
    · rfl

theorem refetch_snd_of_mem {k : Core} {issued : Issued} (h : issued ∈ k.refetch.2) :
    k.refetch.2 = [issued] ∧ issued.call = .list := by
  unfold refetch at h ⊢
  split at h
  · simp at h
  · dsimp only at h ⊢
    split at h
    · rename_i hi
      rw [if_pos hi]
      exact issue_snd_of_mem h
    · simp at h

/-! ### Frames -/

/-- Two cores that differ in the route and in the forms alone. -/
structure Alike (k l : Core) : Prop where
  session : l.session = k.session
  dialogue : l.dialogue = k.dialogue
  cursor : l.cursor = k.cursor
  queries : l.queries = k.queries

/-- **What comes back does one of three things.** A list changes the cursor and the store of
fetches; after a change of the servers the list is fetched again; and the rest changes the route
and the forms alone. -/
theorem receive_cases (k : Core) (outcome : Outcome) :
    (∃ generation result cursor queries, outcome = .fetched generation result ∧
      k.receive outcome = ({ k with cursor, queries }, [])) ∨
    (outcome.isChange = true ∧ ∃ l, k.receive outcome = l.refetch ∧ k.Alike l) ∨
    (outcome.isChange = false ∧ (∀ generation result, outcome ≠ .fetched generation result) ∧
      ∃ l, k.receive outcome = (l, []) ∧ k.Alike l) := by
  cases outcome with
  | fetched generation result =>
    left
    simp only [receive]
    split
    · exact ⟨generation, result, _, _, rfl, rfl⟩
    · split
      · exact ⟨generation, result, _, _, rfl, rfl⟩
      · exact ⟨generation, result, _, _, rfl, rfl⟩
  | deleted id result =>
    right
    cases result with
    | error => exact .inr ⟨rfl, nofun, _, rfl, rfl, rfl, rfl, rfl⟩
    | ok => exact .inl ⟨rfl, _, rfl, rfl, rfl, rfl, rfl⟩
  | created result =>
    right
    cases result with
    | error => exact .inr ⟨rfl, nofun, _, rfl, rfl, rfl, rfl, rfl⟩
    | ok => exact .inl ⟨rfl, _, rfl, rfl, rfl, rfl, rfl⟩
  | updated result =>
    right
    cases result with
    | error => exact .inr ⟨rfl, nofun, _, rfl, rfl, rfl, rfl, rfl⟩
    | ok => exact .inl ⟨rfl, _, rfl, rfl, rfl, rfl, rfl⟩
  | remark => exact .inr (.inr ⟨rfl, nofun, _, rfl, rfl, rfl, rfl, rfl⟩)

/-- Sending the form of a changed server changes the forms alone, and issues an update at most. -/
theorem enact_sendDetail (k : Core) :
    ∃ l, (k.enact .sendDetail = (l, []) ∨
      ∃ revision, k.enact .sendDetail = l.issue (.update revision)) ∧ k.Alike l := by
  simp only [enact]
  split
  · split
    · exact ⟨_, .inl rfl, rfl, rfl, rfl, rfl⟩
    · unfold submit
      split
      · exact ⟨_, .inl rfl, rfl, rfl, rfl, rfl⟩
      · split
        · exact ⟨_, .inr ⟨_, rfl⟩, rfl, rfl, rfl, rfl⟩
        · exact ⟨_, .inl rfl, rfl, rfl, rfl, rfl⟩
  · exact ⟨_, .inl rfl, rfl, rfl, rfl, rfl⟩

/-- Sending the form of a new server changes the forms alone, and issues a creation at most. -/
theorem enact_sendCreate (k : Core) :
    ∃ l, (k.enact .sendCreate = (l, []) ∨
      ∃ details, k.enact .sendCreate = l.issue (.create details)) ∧ k.Alike l := by
  simp only [enact]
  split
  · exact ⟨_, .inl rfl, rfl, rfl, rfl, rfl⟩
  · unfold submit
    split
    · exact ⟨_, .inl rfl, rfl, rfl, rfl, rfl⟩
    · split
      · exact ⟨_, .inr ⟨_, rfl⟩, rfl, rfl, rfl, rfl⟩
      · exact ⟨_, .inl rfl, rfl, rfl, rfl, rfl⟩

/-! ### Staying in place -/

/-- A list that comes back leaves the user where they are. -/
theorem receive_fetched_place (k : Core) (generation : Nat) (result : Except String (List Server)) :
    (k.receive (.fetched generation result)).1.place = k.place := by
  simp only [receive]
  split
  · rfl
  · split <;> rfl

/-- Closing the dialog leaves the user where they are. -/
theorem enact_answer_place (k : Core) (choice : Option Choice) :
    (k.enact (.answer choice)).1.place = k.place := by
  simp only [enact]
  split
  · exact issue_place _ _
  · rfl

/-! ### Causes -/

/-- When a deed can be what issues a call. -/
def Causes (k : Core) (deed : Deed) : Api.Call → Prop
  | .list => deed = .refresh ∨ ∃ outcome, outcome.isChange = true ∧ deed = .come outcome
  | .delete id => deed = .answer (some .confirm) ∧ k.pendingDelete = some id
  | .create _ => deed = .sendCreate
  | .update _ => deed = .sendDetail

theorem receive_snd_of_mem {k : Core} {outcome : Outcome} {issued : Issued}
    (h : issued ∈ (k.receive outcome).2) :
    (k.receive outcome).2 = [issued] ∧ k.Causes (.come outcome) issued.call := by
  obtain ⟨_, _, _, _, -, he⟩ | ⟨hc, l, he, -⟩ | ⟨-, -, l, he, -⟩ := k.receive_cases outcome
  · rw [he] at h
    simp at h
  · rw [he] at h ⊢
    obtain ⟨hs, hi⟩ := refetch_snd_of_mem h
    rw [hi]
    exact ⟨hs, .inr ⟨outcome, hc, rfl⟩⟩
  · rw [he] at h
    simp at h

/-- **A deed issues one call at most**, and it is a cause of that call. -/
theorem enact_snd_of_mem {k : Core} {deed : Deed} {issued : Issued}
    (h : issued ∈ (k.enact deed).2) :
    (k.enact deed).2 = [issued] ∧ k.Causes deed issued.call := by
  cases deed with
  | refresh =>
    obtain ⟨hs, hi⟩ := issue_snd_of_mem h
    rw [hi]
    exact ⟨hs, .inl rfl⟩
  | answer choice =>
    simp only [enact] at h ⊢
    split at h
    · rename_i hp
      obtain ⟨hs, hi⟩ := issue_snd_of_mem h
      rw [hi]
      exact ⟨hs, rfl, hp⟩
    · simp at h
  | sendDetail =>
    obtain ⟨l, he | ⟨revision, he⟩, -⟩ := k.enact_sendDetail <;> rw [he] at h ⊢
    · simp at h
    · obtain ⟨hs, hi⟩ := issue_snd_of_mem h
      rw [hi]
      exact ⟨hs, rfl⟩
  | sendCreate =>
    obtain ⟨l, he | ⟨details, he⟩, -⟩ := k.enact_sendCreate <;> rw [he] at h ⊢
    · simp at h
    · obtain ⟨hs, hi⟩ := issue_snd_of_mem h
      rw [hi]
      exact ⟨hs, rfl⟩
  | come outcome => exact receive_snd_of_mem h
  | _ => simp [enact] at h

/-! ### Frames of all deeds -/

/-- The session stays the same. -/
@[simp] theorem enact_session (k : Core) (deed : Deed) :
    (k.enact deed).1.session = k.session := by
  cases deed with
  | refresh => exact issue_session k .list
  | answer choice =>
    simp only [enact]
    split
    · exact issue_session _ _
    · rfl
  | sendDetail =>
    obtain ⟨l, he | ⟨_, he⟩, hl⟩ := k.enact_sendDetail <;> rw [he]
    · exact hl.session
    · rw [issue_session, hl.session]
  | sendCreate =>
    obtain ⟨l, he | ⟨_, he⟩, hl⟩ := k.enact_sendCreate <;> rw [he]
    · exact hl.session
    · rw [issue_session, hl.session]
  | come outcome =>
    rw [enact]
    obtain ⟨_, _, _, _, -, he⟩ | ⟨-, l, he, hl⟩ | ⟨-, -, l, he, hl⟩ := k.receive_cases outcome <;>
      rw [he]
    · rw [refetch_session, hl.session]
    · exact hl.session
  | _ => rfl

end Core

end McpConsole.Console
