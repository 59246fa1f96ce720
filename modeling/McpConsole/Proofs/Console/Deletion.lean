import McpConsole.Proofs.Console.Course

/-!
# Deleting servers

A server is deleted only from the dialog that asks for it. `Course.deletion_safe` says for every
course that the dialog on the screen, the open modal and the server to be deleted are always there
together, that each delete comes from a dialog of its own, which an administrator opened for the
server under the cursor and then confirmed, and that a dialog that was left otherwise deletes
nothing.

The dialog is three parts of the core, `Core.dialogue`. Only asking and answering change them
(`Core.enact_dialogue_cases`), so that they stay together, and an open dialog goes back to the step
that opened it (`Course.opens_of_isAsking`).
-/

namespace McpConsole.Console

namespace Core

theorem receive_dialogue (k : Core) (outcome : Outcome) :
    (k.receive outcome).1.dialogue = k.dialogue := by
  obtain ⟨_, _, _, _, -, he⟩ | ⟨-, l, he, hl⟩ | ⟨-, -, l, he, hl⟩ := k.receive_cases outcome <;>
    rw [he]
  · rfl
  · rw [refetch_dialogue, hl.dialogue]
  · exact hl.dialogue

theorem enact_answer_dialogue (k : Core) (choice : Option Choice) :
    (k.enact (.answer choice)).1.dialogue = (false, none, none) := by
  simp only [enact]
  split
  · exact issue_dialogue _ _
  · rfl

/-- Confirming deletes the server that the dialog was opened for. -/
theorem enact_confirm {k : Core} {credential id : String}
    (hc : k.session.credential = some credential) (hp : k.pendingDelete = some id) :
    (k.enact (.answer (some .confirm))).2 = [.delete credential id] := by
  simp only [enact, hp]
  rw [issue_delete]
  exact hc

/-- **Only asking and answering change the dialog.** -/
theorem enact_dialogue_cases (k : Core) (deed : Deed) :
    (∃ id, deed = .ask id) ∨
    ((∃ choice, deed = .answer choice) ∧ (k.enact deed).1.dialogue = (false, none, none)) ∨
    (k.enact deed).1.dialogue = k.dialogue := by
  cases deed with
  | ask id => exact .inl ⟨id, rfl⟩
  | answer choice => exact .inr (.inl ⟨⟨choice, rfl⟩, k.enact_answer_dialogue choice⟩)
  | refresh => exact .inr (.inr (issue_dialogue k .list))
  | come outcome => exact .inr (.inr (receive_dialogue k outcome))
  | sendDetail =>
    right; right
    obtain ⟨l, he | ⟨_, he⟩, hl⟩ := k.enact_sendDetail <;> rw [he]
    · exact hl.dialogue
    · rw [issue_dialogue, hl.dialogue]
  | sendCreate =>
    right; right
    obtain ⟨l, he | ⟨_, he⟩, hl⟩ := k.enact_sendCreate <;> rw [he]
    · exact hl.dialogue
    · rw [issue_dialogue, hl.dialogue]
  | _ => exact .inr (.inr rfl)

/-- The parts of the dialog are there together. -/
structure DialogAgrees (k : Core) : Prop where
  modal : k.modal.isSome = k.isAsking
  pending : k.pendingDelete.isSome = k.isAsking

theorem DialogAgrees.of_dialogue {k l : Core} (h : l.dialogue = k.dialogue) (hk : k.DialogAgrees) :
    l.DialogAgrees := by
  obtain ⟨ha, hm, hp⟩ := dialogue_eq_iff.1 h
  exact ⟨by rw [hm, ha, hk.modal], by rw [hp, ha, hk.pending]⟩

theorem DialogAgrees.of_closed {k : Core} (h : k.dialogue = (false, none, none)) :
    k.DialogAgrees := by
  obtain ⟨ha, hm, hp⟩ := dialogue_eq_iff.1 h
  exact ⟨by rw [hm, ha]; rfl, by rw [hp, ha]; rfl⟩

theorem DialogAgrees.enact {k : Core} (hk : k.DialogAgrees) (deed : Deed) :
    (k.enact deed).1.DialogAgrees := by
  obtain ⟨id, rfl⟩ | ⟨-, h⟩ | h := k.enact_dialogue_cases deed
  · exact ⟨rfl, rfl⟩
  · exact .of_closed h
  · exact hk.of_dialogue h

end Core

namespace Course

variable (c : Course)

theorem core_zero_dialogue : (c.core 0).dialogue = (false, none, none) := by
  obtain ⟨queries, h⟩ := c.exists_core_zero
  rw [h]
  rfl

theorem dialogAgrees (n : Nat) : (c.core n).DialogAgrees := by
  induction n with
  | zero => exact .of_closed c.core_zero_dialogue
  | succ n ih =>
    obtain ⟨deed, hd⟩ := c.step n
    rw [hd.core]
    exact ih.enact deed

/-- Whether the dialog is on the screen at a moment. -/
def IsAsking (n : Nat) : Prop :=
  (c.state n).view.dialog.isSome = true

/-- After a moment, an administrator opens the dialog for the server under the cursor. -/
structure Opens (n : Nat) (id : String) : Prop where
  before : ¬c.IsAsking n
  after : c.IsAsking (n + 1)
  isAdmin : (c.state n).app.session.isAdmin = true
  selected : ∃ server, (c.state n).app.selected? = some server ∧ server.id = id

/-- The dialog that was opened after the moment `k` stays open up to the moment `n`, and then gives
the delete of a server. -/
structure Gives (k n : Nat) (id : String) : Prop where
  opens : c.Opens k id
  earlier : k < n
  lasts : ∀ m, k < m → m ≤ n → c.IsAsking m
  deletes : ∃ credential, c.issued (n + 1) = [.delete credential id]

variable {c}

/-- An open dialog was opened for the server that is to be deleted, and has been open since. -/
theorem opens_of_isAsking {n : Nat} {id : String} (ha : c.IsAsking n)
    (hp : (c.core n).pendingDelete = some id) :
    ∃ k, k < n ∧ c.Opens k id ∧ ∀ m, k < m → m ≤ n → c.IsAsking m := by
  induction n with
  | zero =>
    rw [(Core.dialogue_eq_iff.1 c.core_zero_dialogue).2.2] at hp
    cases hp
  | succ n ih =>
    obtain ⟨deed, hd⟩ := c.step n
    obtain ⟨id', rfl⟩ | ⟨-, h⟩ | h := (c.core n).enact_dialogue_cases deed
    · obtain ⟨hf, hadmin, hs⟩ := hd.permits
      have hi : id' = id := by
        rw [hd.core] at hp
        exact Option.some.inj hp
      subst hi
      refine ⟨n, Nat.lt_succ_self n, ⟨?_, ha, hadmin, hs⟩, fun m hm hm' => ?_⟩
      · exact Bool.eq_false_iff.1 hf.isAsking
      · rw [show m = n + 1 by omega]
        exact ha
    · rw [← hd.core] at h
      rw [(Core.dialogue_eq_iff.1 h).2.2] at hp
      cases hp
    · rw [← hd.core] at h
      obtain ⟨hasking, -, hpending⟩ := Core.dialogue_eq_iff.1 h
      obtain ⟨k, hk, ho, hl⟩ := ih (hasking.symm.trans ha) (hpending.symm.trans hp)
      refine ⟨k, by omega, ho, fun m hm hm' => ?_⟩
      by_cases hmn : m = n + 1
      · exact hmn ▸ ha
      · exact hl m hm (by omega)

/-- Closing the dialog takes it from the screen. -/
theorem Closes.not_isAsking {n : Nat} {choice : Option Choice} (h : c.Closes n choice) :
    ¬c.IsAsking (n + 1) := by
  obtain ⟨deed, hd⟩ := c.step n
  obtain rfl := (hd.closes choice).2 h
  have hn := (c.core n).enact_answer_dialogue choice
  rw [← hd.core] at hn
  exact Bool.eq_false_iff.1 (Core.dialogue_eq_iff.1 hn).1

/-- A step that issues a delete answers the dialog by confirming. -/
theorem delete_of_mem {n : Nat} {credential id : String}
    (h : .delete credential id ∈ c.issued (n + 1)) :
    c.issued (n + 1) = [.delete credential id] ∧ c.Closes n (some .confirm) ∧ c.IsAsking n ∧
      ¬c.IsAsking (n + 1) ∧ (c.core n).pendingDelete = some id := by
  obtain ⟨deed, hd⟩ := c.step n
  rw [hd.issued] at h ⊢
  obtain ⟨hs, rfl, hp⟩ := Core.enact_snd_of_mem h
  have hc : c.Closes n (some .confirm) := (hd.closes _).1 rfl
  exact ⟨hs, hc, hd.permits.2, hc.not_isAsking, hp⟩

theorem Closes.unique {n : Nat} {a b : Option Choice} (ha : c.Closes n a) (hb : c.Closes n b) :
    a = b := by
  obtain ⟨event, he, ha⟩ := ha
  obtain ⟨event', he', hb⟩ := hb
  rw [he] at he'
  cases he'
  exact Effect.closing_inj.1 (ha.symm.trans hb)

/-- A dialog gives its delete by being closed with the confirming choice. -/
theorem Gives.closes {k n : Nat} {id : String} (h : c.Gives k n id) :
    c.Closes n (some .confirm) := by
  obtain ⟨credential, hd⟩ := h.deletes
  have hm : Issued.delete credential id ∈ c.issued (n + 1) := by
    rw [hd]
    exact List.mem_singleton_self _
  exact (delete_of_mem hm).2.1

/-- A dialog is closed once. -/
theorem Closes.moment_eq {k n n' : Nat} {a b : Option Choice} (hk : k < n) (hk' : k < n')
    (hl : ∀ m, k < m → m ≤ n → c.IsAsking m) (hl' : ∀ m, k < m → m ≤ n' → c.IsAsking m)
    (h : c.Closes n a) (h' : c.Closes n' b) : n = n' := by
  refine Nat.le_antisymm (Nat.le_of_not_lt fun hlt => ?_) (Nat.le_of_not_lt fun hlt => ?_)
  · exact h'.not_isAsking (hl (n' + 1) (by omega) (by omega))
  · exact h.not_isAsking (hl' (n + 1) (by omega) (by omega))

/-- A delete is given by one dialog. -/
theorem Gives.opening_eq {k k' n : Nat} {id id' : String} (h : c.Gives k n id)
    (h' : c.Gives k' n id') : k = k' := by
  refine Nat.le_antisymm (Nat.le_of_not_lt fun hlt => ?_) (Nat.le_of_not_lt fun hlt => ?_)
  · exact h.opens.before (h'.lasts k hlt (Nat.le_of_lt h.earlier))
  · exact h'.opens.before (h.lasts k' hlt (Nat.le_of_lt h'.earlier))

/-- A dialog that is confirmed gives its delete. -/
theorem Closes.gives {n : Nat} (h : c.Closes n (some .confirm)) : ∃ k id, c.Gives k n id := by
  obtain ⟨deed, hd⟩ := c.step n
  obtain rfl := (hd.closes _).2 h
  obtain ⟨hcomplete, ha⟩ := hd.permits
  obtain ⟨id, hp⟩ := Option.isSome_iff_exists.1 ((c.dialogAgrees n).pending.trans ha)
  obtain ⟨k, hk, ho, hl⟩ := opens_of_isAsking ha hp
  obtain ⟨credential, hc⟩ := Session.exists_credential hcomplete
  exact ⟨k, id, ho, hk, hl, credential, hd.issued.trans (Core.enact_confirm hc hp)⟩

theorem zero_not_delete {credential id : String} : .delete credential id ∉ c.issued 0 := by
  intro h
  cases c.call_of_mem_zero h

/-- **Deletes are safe** in every course. The dialog, the open modal and the server to be deleted
are there together; every delete is given by one dialog, alone, and every dialog gives one delete
at most, of the server that was under the administrator's cursor when it was opened; it gives none
when it was closed by another choice than the confirming one, or without a choice; and a dialog that
is confirmed does give its delete. -/
theorem deletion_safe (c : Course) :
    (∀ n, (c.state n).view.dialog.isSome = (c.state n).app.modal.isSome ∧
      (c.state n).app.modal.isSome = (c.state n).app.pendingDelete.isSome) ∧
    (∀ n credential id, .delete credential id ∈ c.issued n →
      c.issued n = [.delete credential id] ∧ ∃ k m, n = m + 1 ∧ c.Gives k m id) ∧
    (∀ k k' n id id', c.Gives k n id → c.Gives k' n id' → k = k') ∧
    (∀ k n n' id id', c.Gives k n id → c.Gives k n' id' → n = n') ∧
    (∀ k n choice, k < n → (∀ m, k < m → m ≤ n → c.IsAsking m) → c.Closes n choice →
      choice ≠ some .confirm → ∀ n' id, ¬c.Gives k n' id) ∧
    (∀ n, c.Closes n (some .confirm) → ∃ k id, c.Gives k n id) := by
  refine ⟨fun n => ?_, fun n credential id h => ?_, fun k k' n id id' h h' => ?_,
    fun k n n' id id' h h' => ?_, fun k n choice hkn hl hc hne n' id h => ?_, fun n h => h.gives⟩
  · have h := c.dialogAgrees n
    exact ⟨h.modal.symm, h.modal.trans h.pending.symm⟩
  · cases n with
    | zero => exact absurd h zero_not_delete
    | succ m =>
      obtain ⟨hs, -, ha, -, hp⟩ := delete_of_mem h
      obtain ⟨k, hk, ho, hl⟩ := opens_of_isAsking ha hp
      exact ⟨hs, k, m, rfl, ho, hk, hl, credential, hs⟩
  · exact h.opening_eq h'
  · exact Closes.moment_eq h.earlier h'.earlier h.lasts h'.lasts h.closes h'.closes
  · -- both answers close the dialog, so that they are given at the same moment
    obtain rfl := hc.moment_eq hkn h.earlier hl h.lasts h.closes
    exact hne (hc.unique h.closes)

end Course

end McpConsole.Console
