import McpConsole.Proofs.Console.Forms
import McpConsole.Proofs.Console.Tickets

/-!
# Answers to updates

The answer to an update is taken for the server that is shown alone, whichever it is by then. A
user who has left the form of one server and opened another finds the first one shown instead, or
the form of the second one released. `Course.detail_spared_iff` says when such an answer does no
harm, and that it comes only after the form that has sent the update has left the screen.
-/

namespace McpConsole.Console

namespace Detail

/-- What is shown once an update was answered. -/
def answered (d : Detail) : Except String Server → Detail
  | .ok server => d.finishEditing server
  | .error _ => d.mapForm Form.released

theorem released_eq_self_iff (f : Form) : f.released = f ↔ f.isSubmitting = false := by
  constructor
  · intro h
    rw [← h]
    rfl
  · intro h
    rw [Form.released, ← h]

/-- A failure changes nothing but a form that waits. -/
theorem mapForm_released_eq_self_iff (d : Detail) :
    d.mapForm Form.released = d ↔ ∀ form, d.form = some form → form.isSubmitting = false := by
  obtain ⟨server, isEditing, form⟩ := d
  cases form with
  | none => simp [mapForm]
  | some form => simp [mapForm, released_eq_self_iff]

end Detail

/-- An answer to an update is taken for whatever server is shown alone. -/
theorem Core.receive_updated_detail (k : Core) (result : Except String Server) :
    (k.receive (.updated result)).1.detail = k.detail.map fun d => d.answered result := by
  cases result with
  | error reason => rfl
  | ok server => exact (place_eq_iff.1 (refetch_place _)).2.2.1

namespace Course

variable {c : Course} {n : Nat} {ticket : Ticket} {credential : String} {revision : Revision}
  {detail : Detail}

/-- An update of another server than the one that is shown alone comes from a form that has left the
screen. -/
theorem exists_left (hu : ticket.issued = .update credential revision)
    (hw : ticket ∈ c.waiting n) (hd : (c.state n).app.detail = some detail)
    (hne : revision.id ≠ detail.server.id) :
    ∃ k, ticket.moment ≤ k + 1 ∧ k ≤ n ∧ (c.state k).form? = none := by
  obtain ⟨hle, hi⟩ := issued_of_waiting hw
  obtain ⟨moment, issued⟩ := ticket
  obtain rfl : issued = .update credential revision := hu
  cases moment with
  | zero => cases c.call_of_mem_zero hi
  | succ m =>
    have hmn : m ≤ n := Nat.le_of_succ_le hle
    have hbreak : ¬c.HoldsForm m n := by
      -- the form would still be that of the server which the update is for
      intro holds
      obtain ⟨form, hs⟩ := exists_sends hi (by simp [Issued.sentFrom, Issued.call])
      have hv := holds.sameView hmn
      have hshown : (c.core m).shown = .detail := (Option.some.inj hs.sentFrom).symm
      have hedited : (c.core n).edited? = some detail.server := by
        have hd : (c.core n).detail = some detail := hd
        rw [Core.edited?, hv.shown, hshown, hd]
        rfl
      have hid := hs.about revision rfl
      rw [← hv.edited, hedited] at hid
      exact hne (Option.some.inj hid).symm
    obtain ⟨k, hmk, hkn, hk⟩ := exists_of_not_holdsForm hbreak
    exact ⟨k, Nat.succ_le_succ hmk, hkn, hk⟩

/-- **An answer to an update of another server spares the server that is shown alone** if it is a
failure, and if no form is waiting there for an answer of its own; exactly then. Such an answer comes
only after the form that has sent the update has left the screen. -/
theorem detail_spared_iff (c : Course) (hf : c.IsFaithful) {n : Nat} {ticket : Ticket}
    {credential : String} {revision : Revision} {detail : Detail} {outcome : Outcome}
    (hd : (c.state n).app.detail = some detail) (hu : ticket.issued = .update credential revision)
    (hne : revision.id ≠ detail.server.id) (ho : c.Delivers n ticket outcome)
    (own : ∀ server, outcome = .updated (.ok server) → server.id = revision.id) :
    ((c.state (n + 1)).app.detail = some detail ↔
      (∃ reason, outcome = .updated (.error reason)) ∧
        ∀ form, detail.form = some form → form.isSubmitting = false) ∧
    ∃ k, ticket.moment ≤ k + 1 ∧ k ≤ n ∧ (c.state k).form? = none := by
  refine ⟨?_, exists_left hu ho.mem hd hne⟩
  have hg := ho.canGive hf
  rw [hu] at hg
  obtain ⟨result, rfl⟩ : ∃ result, outcome = .updated result := by
    cases outcome with
    | updated result => exact ⟨result, rfl⟩
    | _ => cases hg
  have hn : (c.state (n + 1)).app.detail = some (detail.answered result) := by
    have hk : (c.core n).detail = some detail := hd
    have hr : (c.core (n + 1)).detail = _ := congrArg Core.detail ho.takes.core
    rw [Core.enact, Core.receive_updated_detail, hk] at hr
    exact hr
  rw [hn, Option.some.injEq]
  cases result with
  | ok server =>
    refine ⟨fun h => ?_, fun h => ?_⟩
    · have hs : server = detail.server := congrArg Detail.server h
      exact absurd (by rw [← own server rfl, hs]) hne
    · obtain ⟨⟨reason, hr⟩, -⟩ := h
      cases hr
  | error reason =>
    refine (detail.mapForm_released_eq_self_iff).trans ⟨fun h => ⟨⟨reason, rfl⟩, h⟩, fun h => h.2⟩

/-- An administrator turns to another server, and the update of the first one fails. -/
def spared : Course :=
  ofList administrator (turningAway ++ [.arrival 0 (.updated (.error "conflict"))])

/-- The form of the second server stays as it is. -/
theorem detail_spared_iff_failed :
    (spared.state 7).app.detail = some (.editing (sample "b")) ∧
      ∃ k, 3 ≤ k + 1 ∧ k ≤ 6 ∧ (spared.state k).form? = none := by
  have hd : (spared.state 6).app.detail = some (.editing (sample "b")) := by decide +kernel
  have ho : spared.Delivers 6 ⟨3, sampleUpdate "a"⟩ (.updated (.error "conflict")) :=
    ⟨0, rfl, by decide +kernel⟩
  have h := detail_spared_iff spared (isFaithful_ofList (by decide +kernel)) hd rfl
    (by decide +kernel) ho (fun server hs => by cases hs)
  refine ⟨h.1.2 ⟨⟨"conflict", rfl⟩, ?_⟩, h.2⟩
  rintro form ⟨⟩
  rfl

/-- An administrator turns to another server, and the update of the first one is done. -/
def lost : Course :=
  ofList administrator (turningAway ++ [.arrival 0 (.updated (.ok (sample "a")))])

/-- The form of the second server is lost, and the first one is shown. -/
theorem detail_lost :
    lost.IsFaithful ∧ lost.session.isComplete = true ∧
      (lost.state 6).app.detail = some (.editing (sample "b")) ∧ (sample "a").id ≠ (sample "b").id ∧
      lost.Delivers 6 ⟨3, sampleUpdate "a"⟩ (.updated (.ok (sample "a"))) ∧
      (lost.state 7).app.detail = some (.viewing (sample "a")) :=
  ⟨isFaithful_ofList (by decide +kernel), by decide +kernel, by decide +kernel, by decide +kernel,
    ⟨0, rfl, by decide +kernel⟩, by decide +kernel⟩

end Course

end McpConsole.Console
