import McpConsole.Proofs.Console.Course

/-!
# The calls that are out

The tickets of a course. A ticket bears the moment at which its call was issued
(`Course.issued_of_waiting`), no two tickets are the same (`Course.waiting_nodup`), and a ticket is
out until its call comes back, and not longer (`Course.waiting_succ_iff`).
-/

namespace McpConsole.Console

namespace Course

variable {c : Course} {n : Nat} {ticket : Ticket}

/-- A step issues one call at most. -/
theorem issued_of_mem {issued : Issued} (h : issued ∈ c.issued n) : c.issued n = [issued] := by
  cases n with
  | zero =>
    have hz := congrArg Prod.snd c.core_zero
    dsimp only at hz
    rw [hz] at h ⊢
    split at h
    · rename_i hs
      rw [if_pos hs]
      exact (Core.issue_snd_of_mem h).1
    · simp at h
  | succ n =>
    obtain ⟨deed, hd⟩ := c.step n
    rw [hd.issued] at h ⊢
    exact (Core.enact_snd_of_mem h).1

theorem mem_remaining {happening : Happening} {waiting : List Ticket}
    (h : ticket ∈ happening.remaining waiting) : ticket ∈ waiting := by
  unfold Happening.remaining at h
  split at h
  · exact List.mem_of_mem_eraseIdx h
  · exact h

/-- A ticket bears the moment at which its call was issued. -/
theorem issued_of_waiting (h : ticket ∈ c.waiting n) :
    ticket.moment ≤ n ∧ ticket.issued ∈ c.issued ticket.moment := by
  induction n with
  | zero =>
    obtain ⟨issued, hi, rfl⟩ := List.mem_map.1 h
    exact ⟨Nat.le_refl 0, hi⟩
  | succ n ih =>
    rw [waiting_succ, List.mem_append] at h
    rcases h with h | h
    · obtain ⟨hm, hi⟩ := ih (mem_remaining h)
      exact ⟨Nat.le_succ_of_le hm, hi⟩
    · obtain ⟨issued, hi, rfl⟩ := List.mem_map.1 h
      exact ⟨Nat.le_refl _, hi⟩

/-- The tickets of one moment. -/
theorem nodup_tickets (n m : Nat) : ((c.issued n).map (Ticket.mk m)).Nodup := by
  cases h : c.issued n with
  | nil => exact List.nodup_nil
  | cons issued rest =>
    have hs : c.issued n = [issued] := issued_of_mem (h ▸ List.mem_cons_self)
    rw [h] at hs
    rw [hs]
    simp

/-- **No two tickets are the same.** -/
theorem waiting_nodup (c : Course) (n : Nat) : (c.waiting n).Nodup := by
  induction n with
  | zero => exact nodup_tickets 0 0
  | succ n ih =>
    rw [waiting_succ, List.nodup_append]
    refine ⟨?_, nodup_tickets _ _, fun old ho new hn he => ?_⟩
    · unfold Happening.remaining
      split
      · exact ih.eraseIdx _
      · exact ih
    · obtain ⟨issued, -, rfl⟩ := List.mem_map.1 hn
      have hm := (issued_of_waiting (mem_remaining ho)).1
      rw [he] at hm
      exact Nat.not_succ_le_self n hm

theorem Delivers.mem {outcome : Outcome} (h : c.Delivers n ticket outcome) :
    ticket ∈ c.waiting n := by
  obtain ⟨place, -, hp⟩ := h
  exact List.mem_of_getElem? hp

/-- A call that comes back is one call, with one outcome. -/
theorem Delivers.unique {other : Ticket} {outcome outcome' : Outcome}
    (h : c.Delivers n ticket outcome) (h' : c.Delivers n other outcome') :
    ticket = other ∧ outcome = outcome' := by
  obtain ⟨place, he, hp⟩ := h
  obtain ⟨place', he', hp'⟩ := h'
  rw [he] at he'
  cases he'
  rw [hp] at hp'
  exact ⟨Option.some.inj hp', rfl⟩

/-- **A call is out until it comes back**, and not longer. -/
theorem waiting_succ_iff : ticket ∈ c.waiting (n + 1) ↔
    (ticket ∈ c.waiting n ∧ ∀ outcome, ¬c.Delivers n ticket outcome) ∨
      (ticket.moment = n + 1 ∧ ticket.issued ∈ c.issued (n + 1)) := by
  rw [waiting_succ, List.mem_append]
  refine or_congr ?_ ?_
  · cases hh : c.happening n with
    | arrival place outcome =>
      rw [Happening.remaining, List.mem_eraseIdx_iff_getElem?]
      constructor
      · rintro ⟨i, hne, hi⟩
        refine ⟨List.mem_of_getElem? hi, fun other hd => ?_⟩
        obtain ⟨place', he, hp⟩ := hd
        rw [hh] at he
        cases he
        -- no two tickets are the same, so that there is only one place
        obtain ⟨hl, -⟩ := List.getElem?_eq_some_iff.1 hi
        exact hne ((List.getElem?_inj hl (c.waiting_nodup n)).1 (hi.trans hp.symm))
      · rintro ⟨hm, hd⟩
        obtain ⟨i, hi⟩ := List.mem_iff_getElem?.1 hm
        refine ⟨i, ?_, hi⟩
        rintro rfl
        exact hd outcome ⟨i, hh, hi⟩
    | _ => simp [Happening.remaining, Delivers, hh]
  · constructor
    · intro h
      obtain ⟨issued, hi, rfl⟩ := List.mem_map.1 h
      exact ⟨rfl, hi⟩
    · rintro ⟨hm, hi⟩
      exact List.mem_map.2 ⟨ticket.issued, hi, by rw [← hm]⟩

/-- A call that has just been issued is out. -/
theorem waiting_of_issued {issued : Issued} (h : issued ∈ c.issued n) :
    ⟨n, issued⟩ ∈ c.waiting n := by
  cases n with
  | zero => exact List.mem_map_of_mem h
  | succ n => exact waiting_succ_iff.2 (.inr ⟨rfl, h⟩)

/-! ### Calls that come back -/

variable {outcome : Outcome}

theorem Delivers.takes (h : c.Delivers n ticket outcome) : c.Takes n (.come outcome) := by
  obtain ⟨deed, hd⟩ := c.step n
  obtain ⟨place, he, -⟩ := h
  rw [← (hd.comes outcome).2 ⟨place, he⟩]
  exact hd

/-- What comes back is an outcome of a call that is out. -/
theorem Takes.delivers (hf : c.IsFaithful) (h : c.Takes n (.come outcome)) :
    ∃ ticket, c.Delivers n ticket outcome ∧ ticket.issued.CanGive outcome := by
  obtain ⟨place, he⟩ := (h.comes outcome).1 rfl
  obtain ⟨ticket, ht, hg⟩ := hf n place outcome he
  exact ⟨ticket, ⟨place, he, ht⟩, hg⟩

theorem Delivers.canGive (hf : c.IsFaithful) (h : c.Delivers n ticket outcome) :
    ticket.issued.CanGive outcome := by
  obtain ⟨other, ho, hg⟩ := h.takes.delivers hf
  rw [(h.unique ho).1]
  exact hg

/-- A call that has come back is out no longer. -/
theorem Delivers.notMem {m : Nat} (h : c.Delivers m ticket outcome) (hmn : m < n) :
    ticket ∉ c.waiting n := by
  have hm := (issued_of_waiting h.mem).1
  induction hmn with
  | refl =>
    intro hw
    rcases waiting_succ_iff.1 hw with ⟨-, hd⟩ | ⟨ho, -⟩
    · exact hd outcome h
    · omega
  | @step n hmn ih =>
    have hlt : m < n := hmn
    intro hw
    rcases waiting_succ_iff.1 hw with ⟨hw, -⟩ | ⟨ho, -⟩
    · exact ih hw
    · omega

end Course

end McpConsole.Console
