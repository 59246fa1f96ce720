import McpConsole.Proofs.Console.Course
import McpConsole.Proofs.Session.Missing

/-!
# Sessions that lack something

A console whose session lacks its access token, its role or its user asks for nothing. Commands look
at the access token alone, so that a session with a token and without a role is kept mute by
something else: no view gets the keys and the mouse, and what comes back fetches the list again only
if it was fetched before.

`Core.enact_silent` says that no deed issues a call as long as the store of fetches is empty, and
that the store stays empty. `Course.isMute_iff` says that the courses of sessions that lack
something are the mute ones.
-/

namespace McpConsole

namespace Console

open McpConsole.Query

namespace Core

variable {k : Core} {deed : Deed}

/-- What was never fetched is not fetched again. -/
theorem refetch_of_empty (h : k.queries = .empty) : k.refetch = (k, []) := by
  unfold refetch
  cases k.session.credential with
  | none => rfl
  | some key =>
    have hi : k.queries.invalidate key = (k.queries, false) := by
      rw [h]
      rfl
    simp only [hi, Bool.false_eq_true, if_false]

/-- What comes back is not put into an empty store. -/
theorem receive_silent (h : k.queries = .empty) (outcome : Outcome) :
    (k.receive outcome).2 = [] ∧ (k.receive outcome).1.queries = .empty := by
  obtain ⟨generation, result, _, _, rfl, -⟩ | ⟨-, l, he, hl⟩ | ⟨-, -, l, he, hl⟩ :=
    k.receive_cases outcome
  · unfold receive
    cases k.session.credential with
    | none => exact ⟨rfl, h⟩
    | some key =>
      have hr : k.queries.resolve key generation result = (k.queries, false) := by
        rw [h]
        rfl
      simp only [hr, Bool.false_eq_true, if_false]
      exact ⟨trivial, h⟩
  · have hq : l.queries = .empty := hl.queries.trans h
    rw [he, refetch_of_empty hq]
    exact ⟨rfl, hq⟩
  · rw [he]
    exact ⟨rfl, hl.queries.trans h⟩

/-- **A session that lacks something asks for nothing.** All that asks for a call needs a view or a
dialog that gets the keys, except for what comes back. -/
theorem enact_silent (hs : k.session.isComplete = false) (h : k.queries = .empty)
    (hp : k.Permits deed) : (k.enact deed).2 = [] ∧ (k.enact deed).1.queries = .empty := by
  have not_complete (hc : k.session.isComplete = true) : False := by
    rw [hs] at hc
    cases hc
  cases deed with
  | rest => exact ⟨rfl, h⟩
  | point cursor => exact ⟨rfl, h⟩
  | come outcome => exact receive_silent h outcome
  | refresh => exact (not_complete hp.isComplete).elim
  | leaveDetail => exact (not_complete hp.isComplete).elim
  | leaveCreate => exact (not_complete hp.isComplete).elim
  | answer choice => exact (not_complete hp.1).elim
  | _ => exact (not_complete hp.1.isComplete).elim

end Core

namespace Course

/-- No call is ever issued in a course, and nothing is ever kept of one. -/
def IsMute (c : Course) : Prop :=
  ∀ n, c.issued n = [] ∧ (c.state n).app.queries = .empty

variable {c : Course}

theorem isMute_of_session (hs : c.session.isComplete = false) : c.IsMute := by
  intro n
  induction n with
  | zero =>
    have hz := c.core_zero
    rw [if_neg (by simp [hs])] at hz
    obtain ⟨hcore, hissued⟩ := Prod.mk.inj hz
    exact ⟨hissued, congrArg Core.queries hcore⟩
  | succ n ih =>
    obtain ⟨deed, hd⟩ := c.step n
    have hsession : (c.core n).session.isComplete = false := by
      rw [c.core_session]
      exact hs
    have hsilent := Core.enact_silent hsession ih.2 hd.permits
    rw [← hd.issued, ← hd.core] at hsilent
    exact hsilent

/-- The list is fetched at the start of a session that lacks nothing. -/
theorem issued_zero_ne_nil (hs : c.session.isComplete = true) : c.issued 0 ≠ [] := by
  obtain ⟨credential, hk⟩ := Session.exists_credential hs
  have hz := congrArg Prod.snd c.core_zero
  dsimp only at hz
  obtain ⟨issued, hi, -⟩ :=
    Core.issue_snd (k := (State.start c.theme c.session).core) hk .list
  rw [hz, if_pos hs, hi]
  simp

theorem isMute_iff_isComplete (c : Course) : c.IsMute ↔ c.session.isComplete = false := by
  constructor
  · intro h
    cases hs : c.session.isComplete with
    | false => rfl
    | true => exact absurd (h 0).1 (issued_zero_ne_nil hs)
  · exact isMute_of_session

/-- **A course is mute just when its session lacks something**: the access token, the role or the
user, whatever else happens and whatever comes back. Of the values that a session is made of, a
blank one counts as missing. -/
theorem isMute_iff (c : Course) :
    (c.IsMute ↔
      c.session.credential = none ∨ c.session.role = none ∨ c.session.userId = none) ∧
    ∀ credential role userId, c.session = .ofValues credential role userId →
      (c.IsMute ↔ Session.IsMissing credential ∨ Session.IsMissing role ∨
        Session.IsMissing userId) := by
  have h := c.isMute_iff_isComplete
  refine ⟨h.trans c.session.isComplete_eq_false_iff, fun credential role userId hs => ?_⟩
  rw [h, hs]
  exact Session.isComplete_ofValues credential role userId

end Course

end Console

end McpConsole
