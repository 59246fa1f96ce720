import McpConsole.Proofs.Console.Deletion
import McpConsole.Proofs.Console.Events
import McpConsole.Proofs.Console.Placement

/-!
# Users who only look

Only administrators change servers, and only in a session that lacks nothing. The role is not asked
for everywhere: sending the form of a new server does not look at it, and neither does confirming
that a server is to be deleted. What keeps other users from both is that they never come to a form
or to the dialog.

`Core.OnlyLooks` says that there is neither. What can be done then is little
(`Core.OnlyLooks.deed_cases`), so that it stays so whatever comes back (`Core.OnlyLooks.enact`), and
nothing but the list is asked for (`Core.OnlyLooks.call_of_mem`). `Course.onlyLooks_iff` says it for
all courses, and that in every other session there is a course that comes to a form.
-/

namespace McpConsole

/-- Whether a session lets its user change servers. -/
def Session.MayChange (s : Session) : Prop :=
  s.isComplete = true ∧ s.isAdmin = true

namespace Console

open McpConsole.Query

namespace Core

/-- Nothing is there by which a server is changed: no dialog, no server to be deleted, and no form,
neither of a new server nor of the one that is shown. -/
structure OnlyLooks (k : Core) : Prop where
  dialogue : k.dialogue = (false, none, none)
  create : k.create = none
  detail : ∀ detail, k.detail = some detail → detail = .viewing detail.server

namespace OnlyLooks

variable {k l : Core} {deed : Deed}

theorem isAsking (h : k.OnlyLooks) : k.isAsking = false :=
  (dialogue_eq_iff.1 h.dialogue).1

theorem form_eq_none (h : k.OnlyLooks) {detail : Detail} (hd : k.detail = some detail) :
    detail.form = none := by
  rw [h.detail detail hd]
  rfl

/-- **What can be done where the user only looks**, in a session that lets them change nothing. No
server can be edited, made or deleted, since all of that begins with a form or with the dialog. -/
theorem deed_cases (h : k.OnlyLooks) (hs : ¬k.session.MayChange) (hp : k.Permits deed) :
    deed = .rest ∨ (∃ cursor, deed = .point cursor) ∨ deed = .refresh ∨
      (∃ cursor server, deed = .visit cursor (.viewing server)) ∨ deed = .leaveDetail ∨
      deed = .leaveCreate ∨ ∃ outcome, deed = .come outcome := by
  have not_faces {route : Route} (hf : k.Faces route) : k.session.isAdmin = false := by
    have ha : ¬k.session.isAdmin = true := fun ha => hs ⟨hf.isComplete, ha⟩
    simpa using ha
  cases deed with
  | rest => simp
  | point cursor => simp
  | refresh => simp
  | leaveDetail => simp
  | leaveCreate => simp
  | come outcome => simp
  | visit cursor detail =>
    obtain ⟨hf, -, server, editing, -, rfl⟩ := hp
    have hv : k.opened server.id editing = .viewing (Server.find k.servers server.id) := by
      simp [opened, not_faces hf]
    exact .inr (.inr (.inr (.inl ⟨cursor, _, by rw [hv]⟩)))
  | ask id =>
    obtain ⟨hf, ha, -⟩ := hp
    exact absurd ha (by simp [not_faces hf])
  | draft =>
    obtain ⟨hf, ha⟩ := hp
    exact absurd ha (by simp [not_faces hf])
  | startEditing =>
    obtain ⟨hf, ha, -⟩ := hp
    exact absurd ha (by simp [not_faces hf])
  | answer choice =>
    obtain ⟨-, ha⟩ := hp
    exact absurd ha (by simp [h.isAsking])
  | fillDetail form =>
    obtain ⟨-, detail, old, -, hd, ho, -⟩ := hp
    exact absurd ho (by simp [h.form_eq_none hd])
  | sendDetail =>
    obtain ⟨-, detail, old, hd, ho⟩ := hp
    exact absurd ho (by simp [h.form_eq_none hd])
  | fillCreate form =>
    obtain ⟨-, old, -, ho, -⟩ := hp
    exact absurd ho (by simp [h.create])
  | sendCreate =>
    obtain ⟨-, old, ho⟩ := hp
    exact absurd ho (by simp [h.create])

theorem of_place (h : k.OnlyLooks) (hd : l.dialogue = k.dialogue) (hl : l.place = k.place) :
    l.OnlyLooks := by
  obtain ⟨-, -, hdetail, hcreate⟩ := place_eq_iff.1 hl
  refine ⟨hd.trans h.dialogue, hcreate.trans h.create, ?_⟩
  rw [hdetail]
  exact h.detail

/-- **Whatever comes back**, no form and no dialog comes with it. -/
theorem receive (h : k.OnlyLooks) (outcome : Outcome) : (k.receive outcome).1.OnlyLooks := by
  have hdialogue := k.receive_dialogue outcome
  cases outcome with
  | fetched generation result =>
    exact h.of_place hdialogue (k.receive_fetched_place generation result)
  | deleted id result =>
    cases result with
    | ok => exact h.of_place hdialogue (refetch_place k)
    | error => exact h
  | created result =>
    cases result with
    | ok server =>
      obtain ⟨-, -, hd, hc⟩ := place_eq_iff.1 (k.receive_created_place server)
      exact ⟨hdialogue.trans h.dialogue, hc, by rw [hd]; exact h.detail⟩
    | error reason => exact ⟨h.dialogue, by simp [Core.receive, h.create], h.detail⟩
  | updated result =>
    cases result with
    | ok server =>
      obtain ⟨-, -, hd, hc⟩ := place_eq_iff.1 (refetch_place
        { k with detail := k.detail.map fun d => Detail.finishEditing d server })
      refine ⟨hdialogue.trans h.dialogue, hc.trans h.create, fun detail he => ?_⟩
      rw [Core.receive, hd] at he
      obtain ⟨old, -, rfl⟩ := Option.map_eq_some_iff.1 he
      rfl
    | error reason =>
      refine ⟨h.dialogue, h.create, fun detail he => ?_⟩
      obtain ⟨old, ho, rfl⟩ := Option.map_eq_some_iff.1 he
      rw [h.detail old ho]
      rfl
  | remark text => exact h

/-- **Who only looks goes on only looking**, whatever is done. -/
theorem enact (h : k.OnlyLooks) (hs : ¬k.session.MayChange) (hp : k.Permits deed) :
    (k.enact deed).1.OnlyLooks := by
  obtain rfl | ⟨cursor, rfl⟩ | rfl | ⟨cursor, server, rfl⟩ | rfl | rfl | ⟨outcome, rfl⟩ :=
    h.deed_cases hs hp
  · exact h
  · exact h.of_place rfl rfl
  · exact h.of_place (issue_dialogue k .list) (issue_place k .list)
  · have hd : (k.enact (.visit cursor (.viewing server))).1.detail = some (.viewing server) := rfl
    refine ⟨h.dialogue, h.create, fun detail he => ?_⟩
    rw [hd] at he
    cases he
    rfl
  · have hd : (k.enact .leaveDetail).1.detail = none := rfl
    refine ⟨h.dialogue, h.create, fun detail he => ?_⟩
    rw [hd] at he
    cases he
  · exact ⟨h.dialogue, rfl, h.detail⟩
  · exact h.receive outcome

/-- Nothing but the list is asked for where the user only looks. -/
theorem call_of_mem (h : k.OnlyLooks) (hs : ¬k.session.MayChange) (hp : k.Permits deed)
    {issued : Issued} (hi : issued ∈ (k.enact deed).2) : issued.call = .list := by
  have hcause := (enact_snd_of_mem hi).2
  cases hc : issued.call with
  | list => rfl
  | _ =>
    rw [hc] at hcause
    obtain rfl | ⟨cursor, rfl⟩ | rfl | ⟨cursor, server, rfl⟩ | rfl | rfl | ⟨outcome, rfl⟩ :=
      h.deed_cases hs hp <;> simp [Causes] at hcause

end OnlyLooks

end Core

namespace State

/-- An administrator comes to the form of a new server by a key. -/
theorem respond_draft {s : State} (h : s.core.Faces .list) (ha : s.app.session.isAdmin = true)
    (clipboard : Clipboard) :
    (s.respond clipboard (.key ⟨.char 'n', false⟩)).1.app.create = some .empty := by
  have hk : s.handle (.key ⟨.char 'n', false⟩) =
      (⟨{ s.app with create := some .empty }, s.view⟩, [.switchTo .create]) := by
    rw [handle, handleKey_of_faces h]
    simp [viewKey, listKey, ha, after, App.openCreate]
  rw [respond, hk]
  dsimp only
  rw [process_navigate _ _ rfl]
  rfl

end State

namespace Course

/-- At a moment, nothing has been asked for that changes a server, and nothing is there by which one
is changed: no server to be deleted, no form of a new server, no server that is edited, no modal and
no dialog on the screen. -/
structure OnlyLooks (c : Course) (n : Nat) : Prop where
  calls : ∀ issued ∈ c.issued n, issued.call = .list
  pendingDelete : (c.state n).app.pendingDelete = none
  create : (c.state n).app.create = none
  detail : ∀ detail, (c.state n).app.detail = some detail →
    detail.isEditing = false ∧ detail.form = none
  modal : (c.state n).app.modal = none
  dialog : (c.state n).view.dialog = none

variable {c : Course} {n : Nat}

theorem OnlyLooks.of_core (h : (c.core n).OnlyLooks)
    (hc : ∀ issued ∈ c.issued n, issued.call = .list) : c.OnlyLooks n := by
  obtain ⟨hasking, hmodal, hpending⟩ := Core.dialogue_eq_iff.1 h.dialogue
  refine ⟨hc, hpending, h.create, fun detail hd => ?_, hmodal, ?_⟩
  · rw [h.detail detail hd]
    exact ⟨rfl, rfl⟩
  · exact Option.not_isSome_iff_eq_none.1 (Bool.eq_false_iff.1 hasking)

theorem core_onlyLooks (hs : ¬c.session.MayChange) (n : Nat) : (c.core n).OnlyLooks := by
  induction n with
  | zero =>
    obtain ⟨queries, h⟩ := c.exists_core_zero
    have hdetail : (c.core 0).detail = none := by
      rw [h]
      rfl
    refine ⟨c.core_zero_dialogue, by rw [h]; rfl, fun detail hd => ?_⟩
    rw [hdetail] at hd
    cases hd
  | succ n ih =>
    obtain ⟨deed, hd⟩ := c.step n
    rw [hd.core]
    exact ih.enact (by rw [c.core_session]; exact hs) hd.permits

theorem onlyLooks_of_session (hs : ¬c.session.MayChange) (n : Nat) : c.OnlyLooks n := by
  refine .of_core (core_onlyLooks hs n) fun issued hi => ?_
  cases n with
  | zero => exact c.call_of_mem_zero hi
  | succ n =>
    obtain ⟨deed, hd⟩ := c.step n
    rw [hd.issued] at hi
    exact (core_onlyLooks hs n).call_of_mem (by rw [c.core_session]; exact hs) hd.permits hi

/-- **Who is no administrator only looks**, in every course: whatever the user does, wherever they
click and whatever comes back, no server is asked to be made, changed or deleted, and there is never
a form, a server to be deleted or a dialog. The same is so for a session that lacks something, and
for no other: an administrator comes to a form by one key. -/
theorem onlyLooks_iff (session : Session) :
    (∀ c : Course, c.session = session → ∀ n, c.OnlyLooks n) ↔
      session.isAdmin = false ∨ session.isComplete = false := by
  constructor
  · intro h
    refine Decidable.byContradiction fun hn => ?_
    rw [not_or, Bool.not_eq_false, Bool.not_eq_false] at hn
    obtain ⟨hadmin, hcomplete⟩ := hn
    let c := ofList session [.press (.char 'n')]
    have hsession : (c.core 0).session = session := c.core_session 0
    have hfaces : (c.core 0).Faces .list := by
      obtain ⟨queries, hz⟩ := c.exists_core_zero
      refine ⟨by rw [hsession]; exact hcomplete, ?_, ?_⟩ <;> rw [hz] <;> rfl
    have hform : (c.state 1).app.create = some .empty :=
      State.respond_draft hfaces ((congrArg Session.isAdmin hsession).trans hadmin) _
    rw [(h c rfl 1).create] at hform
    cases hform
  · intro h c hc n
    refine onlyLooks_of_session (fun hm => ?_) n
    rw [hc] at hm
    rcases h with h | h
    · exact absurd hm.2 (by simp [h])
    · exact absurd hm.1 (by simp [h])

end Course

end Console

end McpConsole
