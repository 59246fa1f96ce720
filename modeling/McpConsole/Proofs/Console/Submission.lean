import McpConsole.Proofs.Console.Forms
import McpConsole.Proofs.Console.Tickets

/-!
# Sending a form once

A form that was sent waits for an answer, and meanwhile it is not sent again. Answers do not tell
which form they are for, though: a failure releases whatever form of its kind is on the screen, so
that the form of one request can be released by the failure of another. `Course.form_awaits_iff`
says that this is the only way in which a form can be sent again while its request is out.
-/

namespace McpConsole.Console

namespace Course

/-- The form on the screen was sent and waits for an answer. -/
def Awaits (c : Course) (n : Nat) : Prop :=
  ∃ form, (c.state n).form? = some form ∧ form.isSubmitting = true

/-- No form is sent after a moment. -/
def IsSilent (c : Course) (n : Nat) : Prop :=
  ∀ issued ∈ c.issued (n + 1), issued.sentFrom = none

variable {c : Course} {m n : Nat} {form : Form} {request : Issued} {outcome : Outcome}

/-- A form that has just been sent waits. -/
theorem Sends.awaits (h : c.Sends n form request) : c.Awaits (n + 1) :=
  ⟨form.sent, h.after, rfl⟩

/-- **A form that waits is not sent.** -/
theorem Awaits.isSilent (h : c.Awaits n) : c.IsSilent n := by
  obtain ⟨form, hf, hs⟩ := h
  intro issued hi
  by_cases hne : issued.sentFrom = none
  · exact hne
  · obtain ⟨other, ho⟩ := exists_sends hi hne
    have he : form = other := Option.some.inj (hf.symm.trans ho.before)
    rw [he, ho.isFree] at hs
    cases hs

/-- A form waits until it is released. -/
theorem Awaits.succ (h : c.Awaits n) (hn : (c.state (n + 1)).form?.isSome = true)
    (hr : ∀ outcome, c.Takes n (.come outcome) → outcome.releases ≠ some (c.core n).shown) :
    c.Awaits (n + 1) := by
  obtain ⟨form, hf, hs⟩ := h
  obtain ⟨deed, hd, ht⟩ := turns hf
  cases ht with
  | leaves left => simp [hd.form?, left] at hn
  | stays new shows view isSubmitting => exact ⟨new, hd.form?.trans shows, isSubmitting.trans hs⟩
  | sends other shows view isFree => simp [isFree] at hs
  | releases outcome come releases =>
    subst come
    exact absurd releases (hr outcome hd)

/-- A form that does not wait has to be sent first. -/
theorem not_awaits_succ (hf : (c.state n).form? = some form) (h : ¬c.Awaits n) (hs : c.IsSilent n) :
    ¬c.Awaits (n + 1) := by
  have hfree : form.isSubmitting = false :=
    Bool.eq_false_iff.2 fun ht => h ⟨form, hf, ht⟩
  obtain ⟨deed, hd, ht⟩ := turns hf
  rintro ⟨new, hn, hw⟩
  rw [hd.form?] at hn
  cases ht with
  | leaves left => simp [left] at hn
  | stays other shows view isSubmitting =>
    cases shows.symm.trans hn
    simp [isSubmitting, hfree] at hw
  | sends request shows view isFree issued sentFrom =>
    have hnone := hs request (by simp [hd.issued, issued])
    rw [sentFrom] at hnone
    cases hnone
  | releases outcome come releases shows =>
    cases shows.symm.trans hn
    cases hw

/-- A form that is released waits no longer. -/
theorem not_awaits_of_releases (hf : (c.state n).form? = some form) (h : c.Takes n (.come outcome))
    (hr : outcome.releases = some (c.core n).shown) : ¬c.Awaits (n + 1) := by
  rintro ⟨new, hn, hw⟩
  rw [h.form?] at hn
  cases Core.turns ((core_form? c n).trans hf) h.permits with
  | leaves left => simp [left] at hn
  | stays _ _ _ _ _ quiet => exact quiet outcome rfl hr
  | sends _ _ _ _ _ _ _ isNew => exact isNew outcome rfl
  | releases _ _ _ shows =>
    cases shows.symm.trans hn
    cases hw

/-- **While a form waits for the answer to its request, it is not sent again**, as long as no other
request of its kind fails, and only then. The form is on the screen from the moment `m`, at which it
sends its request, to the moment `n`, at which the request is still out. -/
theorem form_awaits_iff (c : Course) (hf : c.IsFaithful) {m n : Nat} {request : Issued}
    {view : Route} (hi : request ∈ c.issued (m + 1)) (hs : request.sentFrom = some view)
    (hmn : m < n) (holds : c.HoldsForm m n) (out : ⟨m + 1, request⟩ ∈ c.waiting n) :
    (c.Awaits n ∧ ∀ k, m < k → k ≤ n → c.IsSilent k) ↔
      ∀ k, m < k → k < n → ∀ ticket outcome, c.Delivers k ticket outcome →
        ticket ≠ ⟨m + 1, request⟩ → outcome.releases ≠ some view := by
  obtain ⟨form, hsent⟩ := exists_sends hi (by simp [hs])
  have shown {k : Nat} (hk : m ≤ k) (hkn : k ≤ n) : some (c.core k).shown = some view := by
    have hv := HoldsForm.sameView (fun j hj hjk => holds j hj (Nat.le_trans hjk hkn)) hk
    rw [hv.shown, ← hsent.sentFrom, hs]
  constructor
  · rintro ⟨hw, silent⟩ k hmk hkn ticket outcome hd - hr
    -- the failure releases the form, which then is not sent again up to the moment `n`
    have free (j : Nat) (hkj : k < j) (hjn : j ≤ n) : ¬c.Awaits j := by
      induction hkj with
      | refl =>
        obtain ⟨old, ho⟩ := Option.isSome_iff_exists.1 (holds k (by omega) (by omega))
        exact not_awaits_of_releases ho hd.takes (hr.trans (shown (by omega) (by omega)).symm)
      | @step j hkj ih =>
        have hkj : k < j := hkj
        obtain ⟨old, ho⟩ := Option.isSome_iff_exists.1 (holds j (by omega) (by omega))
        exact not_awaits_succ ho (ih (by omega)) (silent j (by omega) (by omega))
    exact free n hkn (Nat.le_refl n) hw
  · intro hq
    have awaits (j : Nat) (hmj : m < j) (hjn : j ≤ n) : c.Awaits j := by
      induction hmj with
      | refl => exact hsent.awaits
      | @step j hmj ih =>
        have hmj : m < j := hmj
        refine (ih (by omega)).succ (holds _ (by omega) (by omega)) fun outcome ht => ?_
        obtain ⟨ticket, hd, -⟩ := ht.delivers hf
        rw [shown (by omega) (by omega)]
        refine hq j hmj (by omega) ticket outcome hd fun he => ?_
        exact hd.notMem (Nat.lt_of_succ_le hjn) (he ▸ out)
    exact ⟨awaits n hmn (Nat.le_refl n), fun k hmk hkn => (awaits k hmk hkn).isSilent⟩

/-- An administrator turns to another server, and tries to send its form twice. -/
def patient : Course :=
  ofList administrator (turningAway ++ [.save, .save, .tick])

theorem patient_isFaithful : patient.IsFaithful :=
  isFaithful_ofList (by decide +kernel)

/-- The form of the second server is sent once, although the request for the first one is out. -/
theorem form_awaits_iff_patient :
    patient.Awaits 8 ∧ ∀ k, 6 < k → k ≤ 8 → patient.IsSilent k := by
  have holds : ∀ k < 9, 6 ≤ k → (patient.state k).form?.isSome = true := by decide +kernel
  have hi : sampleUpdate "b" ∈ patient.issued 7 := by decide +kernel
  refine (form_awaits_iff patient patient_isFaithful hi rfl (by decide)
    (fun k hm hn => holds k (by omega) hm) (by decide +kernel)).2 fun k hm hn ticket outcome hd => ?_
  obtain rfl : k = 7 := by omega
  obtain ⟨place, he, -⟩ := hd
  cases he

/-- An administrator turns to another server and sends its form, and again after the request for the
first server has failed. -/
def hasty : Course :=
  ofList administrator (turningAway ++ [.save, .arrival 0 (.updated (.error "conflict")), .save])

/-- The form of the second server is sent twice, and the first of its requests is still out. -/
theorem form_sentTwice_hasty :
    hasty.IsFaithful ∧ hasty.session.isComplete = true ∧ hasty.HoldsForm 6 8 ∧
      sampleUpdate "b" ∈ hasty.issued 7 ∧ ⟨7, sampleUpdate "b"⟩ ∈ hasty.waiting 8 ∧
      sampleUpdate "b" ∈ hasty.issued 9 ∧ ¬hasty.IsSilent 8 := by
  have again : sampleUpdate "b" ∈ hasty.issued 9 := by decide +kernel
  have holds : ∀ k < 9, 6 ≤ k → (hasty.state k).form?.isSome = true := by decide +kernel
  refine ⟨isFaithful_ofList (by decide +kernel), by decide +kernel,
    fun k hm hn => holds k (by omega) hm, by decide +kernel, by decide +kernel, again,
    fun silent => ?_⟩
  cases silent _ again

end Course

end McpConsole.Console
