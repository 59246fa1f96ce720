import McpConsole.Proofs.Text.Redaction.Pass

/-!
# A redacted text is settled

A text is settled for a pattern when all that the pattern hits in it is hidden already: then a pass
changes nothing (`replaceAll_of_settled`). A pass settles the text for its own pattern
(`Reading.settled_replaceAll`), and it keeps the text settled for the patterns before it
(`Reading.settled_of_rewrites`): a mark is put where an earlier pattern hits nothing or only the
mark itself, which is what `Spares` asks of the two patterns. So after the four passes the text is
settled for all four of them, and to redact it once more changes nothing (`redact_settled`).
-/

namespace McpConsole.Text.Redaction

variable {f g : Pattern} {cs ds : List Char}

/-- All that the pattern hits in the text is hidden already. -/
def Settled (f : Pattern) (cs : List Char) : Prop :=
  ∀ ⦃kept secret rest : List Char⦄, kept ++ (secret ++ rest) <:+ cs →
    IsHit f kept secret rest → secret = mark

theorem Settled.of_suffix {us : List Char} (h : Settled f cs) (hus : us <:+ cs) : Settled f us :=
  fun _ _ _ hsuffix hhit => h (hsuffix.trans hus) hhit

theorem Rewrites.eq_of_settled (h : Rewrites f cs ds) (hs : Settled f cs) : ds = cs := by
  induction h with
  | nil => rfl
  | keep hnone hcs ih => rw [ih (hs.of_suffix (List.suffix_cons _ _))]
  | hide hhit hrest ih =>
    rename_i kept secret rest ds
    have hmark : secret = mark := hs (List.suffix_refl _) hhit
    have hsuffix : rest <:+ kept ++ (secret ++ rest) :=
      (List.suffix_append secret rest).trans (List.suffix_append kept _)
    rw [ih (hs.of_suffix hsuffix), hmark]

theorem replaceAll_of_settled (hf : Sound f) (h : Settled f cs) : replaceAll f cs = cs :=
  (rewrites_replaceAll hf cs).eq_of_settled h

/-! ### A pass settles its own pattern -/

/-- An introduction and what a secret begins with make a hit. -/
theorem Reading.exists_isHit (r : Reading f) {intro value : List Char} (hintro : r.IsIntro intro)
    (hvalue : starts r.opens value = true) :
    ∃ secret rest, value = secret ++ rest ∧ IsHit f intro secret rest := by
  obtain ⟨secret, rest, rfl, hsecret⟩ := exists_append_of_le (r.size_le value)
  exact ⟨secret, rest, rfl, r.isHit_iff.2 ⟨hintro, hvalue, hsecret⟩⟩

theorem Reading.eq_mark (r : Reading f) {kept secret rest tail : List Char}
    (h : IsHit f kept secret rest) (hmark : secret ++ rest = mark ++ tail)
    (htail : starts r.opens tail = false) : secret = mark := by
  obtain ⟨-, hstarts, hsize⟩ := r.isHit_iff.1 h
  rw [hmark] at hstarts hsize
  rw [(r.size_mark hstarts tail).2 htail] at hsize
  exact (List.append_inj hmark hsize).1

/-- **A pass settles the text for its pattern.** -/
theorem Reading.settled_replaceAll (r : Reading f) (cs : List Char) :
    Settled f (replaceAll f cs) := by
  intro kept secret rest hsuffix hhit
  obtain ⟨hintro, hstarts, -⟩ := r.isHit_iff.1 hhit
  have hne : kept ++ (secret ++ rest) ≠ [] := by simp [hhit.ne_nil]
  have horigin := (rewrites_replaceAll r.sound cs).origin hsuffix hne
  have heq := hhit.eq
  generalize hus : kept ++ (secret ++ rest) = us at horigin heq
  cases horigin with
  | inside j hj es =>
    rw [r.mark_drop j hj es] at heq
    cases heq
  | plain hcs hnone =>
    rw [hnone] at heq
    cases heq
  | ahead hbefore hcs hfirst hrest hkept =>
    rename_i before intro' secret' rest' es
    obtain ⟨value, rfl, hvalue⟩ := exists_append_of_bracket (r.bracket_notMem hintro) hus
    obtain ⟨hintro', -, hsize'⟩ := r.isHit_iff.1 hfirst
    by_cases hnil : value = []
    · -- The hit is the mark, and the new secret ends where the old one did.
      subst hnil
      rw [List.nil_append] at hvalue
      have hopens : r.opens '[' = true := by rwa [hvalue] at hstarts
      have hstop := r.starts_drop_size hopens (secret' ++ rest')
      rw [← hsize', List.drop_left, ← hrest.starts_eq r] at hstop
      exact r.eq_mark hhit hvalue hstop
    · -- The introduction was there before, with the beginning of a secret behind it.
      rw [hvalue, starts_append hnil] at hstarts
      rcases hkept with ⟨-, hnone⟩ | hin
      · have hstarts' : starts r.opens (value ++ (secret' ++ rest')) = true := by
          rwa [starts_append hnil]
        obtain ⟨secret₁, rest₁, hsplit, hold⟩ := r.exists_isHit hintro hstarts'
        rw [List.append_assoc, hsplit, hold.eq] at hnone
        cases hnone
      · exact absurd hin (r.alone hintro hintro' hstarts)

/-- A pass for bare keys leaves none: a key has no bracket, so it stood before the mark, and what
stands there was no key. -/
theorem settled_replaceAll_bareKey (cs : List Char) : Settled bareKey (replaceAll bareKey cs) := by
  intro kept secret rest hsuffix hhit
  have hne : kept ++ (secret ++ rest) ≠ [] := by simp [hhit.ne_nil]
  have horigin := (rewrites_replaceAll bareKey_sound cs).origin hsuffix hne
  have heq := hhit.eq
  generalize kept ++ (secret ++ rest) = us at horigin heq
  cases horigin with
  | inside j hj es =>
    rw [bareKey_mark_drop j hj es] at heq
    cases heq
  | plain hcs hnone =>
    rw [hnone] at heq
    cases heq
  | ahead hbefore hcs hfirst hrest hkept =>
    rename_i before kept' secret' rest' es
    obtain ⟨run, after, hrun, hchars, -, hlong, -⟩ := bareKey_eq_some_iff.1 heq
    obtain ⟨_, _, _, _, _, _, hkept'⟩ := bareKey_eq_some_iff.1 hfirst.eq
    have hnil : kept' = [] := List.length_eq_zero_iff.1 (Hit.mk.inj hkept').1
    subst hnil
    have hbracket : '[' ∉ "sk-".toList ++ run := by
      intro hmem
      rcases List.mem_append.1 hmem with hintro | hin
      · exact absurd hintro (by decide)
      · exact absurd (hchars '[' hin) (by decide)
    rw [← List.append_assoc "sk-".toList] at hrun
    obtain ⟨value, rfl, -⟩ := exists_append_of_bracket hbracket hrun.symm
    rcases hkept with ⟨-, hnone⟩ | hin
    · obtain ⟨more, stop, hsplit, hmore, hstop⟩ :=
        exists_run isKeyChar (value ++ (secret' ++ rest'))
      have hkey : ∀ c ∈ run ++ more, isKeyChar c = true := by
        intro c hc
        rcases List.mem_append.1 hc with hc | hc
        · exact hchars c hc
        · exact hmore c hc
      have hsix : ¬ (run ++ more).length < 6 := by
        rw [List.length_append]
        omega
      have hsome := bareKey_append hkey hstop
      rw [if_neg hsix] at hsome
      rw [List.append_assoc, List.append_assoc, hsplit, ← List.append_assoc run, hsome] at hnone
      cases hnone
    · exact absurd (List.suffix_nil.1 hin) hbefore

/-! ### A pass keeps the text settled for earlier patterns -/

/-- The second pattern hides nothing that stands behind an introduction of the first or inside a
mark there, except what the first pattern would hide, too, and has not left there. -/
def Spares (r : Reading f) (g : Pattern) : Prop :=
  ∀ ⦃kept secret rest before intro : List Char⦄ ⦃j : Nat⦄, IsHit g kept secret rest →
    (kept <:+ before ∨ before <:+ kept) → r.IsIntro intro → before = intro ++ mark.take j →
    starts r.opens (secret ++ rest) = true ∧ (secret ++ rest).head? ≠ mark[j]?

/-- Two splits of a text in two, where the second one's rest does not go on as the first one's
beginning does: then the first split comes first. -/
theorem exists_append_of_head?_ne {xs ys value rest : List Char} (h : xs ++ ys = value ++ rest)
    (hne : rest.head? ≠ xs[value.length]?) : ∃ more, value = xs ++ more ∧ ys = more ++ rest := by
  rcases List.append_eq_append_iff.1 h with hmore | ⟨extra, rfl, hrest⟩
  · exact hmore
  · cases extra with
    | nil => exact ⟨[], by simp, by simpa using hrest.symm⟩
    | cons c extra => simp [hrest] at hne

/-- **A pass keeps the text settled for an earlier pattern** whose secrets its own hits spare. A
pattern whose secrets do not begin with a bracket has none at a mark in any case. -/
theorem Reading.settled_of_rewrites (r : Reading f) (hsettled : Settled f cs)
    (hpass : Rewrites g cs ds) (hspares : r.opens '[' = true → Spares r g) : Settled f ds := by
  intro kept secret rest hsuffix hhit
  obtain ⟨hintro, hstarts, -⟩ := r.isHit_iff.1 hhit
  have hne : kept ++ (secret ++ rest) ≠ [] := by simp [hhit.ne_nil]
  have horigin := hpass.origin hsuffix hne
  generalize hus : kept ++ (secret ++ rest) = us at horigin
  cases horigin with
  | inside j hj es =>
    have heq := hhit.eq
    rw [hus, r.mark_drop j hj es] at heq
    cases heq
  | plain hcs hnone =>
    subst hus
    exact hsettled hcs hhit
  | ahead hbefore hcs hfirst hrest hkept =>
    rename_i before kept' secret' rest' es
    obtain ⟨value, rfl, hvalue⟩ := exists_append_of_bracket (r.bracket_notMem hintro) hus
    have hkept' : kept' <:+ kept ++ value ∨ kept ++ value <:+ kept' := hkept.imp_left And.left
    have hbegun : starts r.opens (value ++ (secret' ++ rest')) = true := by
      by_cases hnil : value = []
      · subst hnil
        have hopens : r.opens '[' = true := by rwa [hvalue] at hstarts
        exact (hspares hopens (j := 0) hfirst hkept' hintro rfl).1
      · rwa [hvalue, starts_append hnil, ← starts_append hnil (secret' ++ rest')] at hstarts
    obtain ⟨secret₁, rest₁, hsplit, hold⟩ := r.exists_isHit hintro hbegun
    have hmark : secret₁ = mark := by
      apply hsettled _ hold
      rwa [← hsplit, ← List.append_assoc]
    subst hmark
    obtain ⟨-, hopens, hsize⟩ := r.isHit_iff.1 hold
    have hstop : starts r.opens rest₁ = false := (r.size_mark hopens rest₁).1 hsize.symm
    by_cases hin : value <+: mark
    · have hj : value = mark.take value.length := List.prefix_iff_eq_take.1 hin
      obtain ⟨hgo, hhead⟩ := hspares hopens hfirst hkept' hintro (congrArg (kept ++ ·) hj)
      obtain ⟨more, hmore, rfl⟩ := exists_append_of_head?_ne hsplit.symm hhead
      have hnil : more = [] := by
        have hle := hin.length_le
        rw [hmore, List.length_append] at hle
        exact List.length_eq_zero_iff.1 (by omega)
      rw [hnil, List.nil_append, hgo] at hstop
      cases hstop
    · have hvalue₁ : value <+: mark ++ rest₁ := hsplit ▸ List.prefix_append value _
      obtain ⟨more, rfl⟩ :=
        (List.prefix_or_prefix_of_prefix hvalue₁ (List.prefix_append mark rest₁)).resolve_left hin
      have hnil : more ≠ [] := by
        rintro rfl
        exact hin (by simp)
      have hrest₁ : more ++ (secret' ++ rest') = rest₁ := by
        rw [List.append_assoc] at hsplit
        exact List.append_cancel_left hsplit
      rw [← hrest₁, starts_append hnil] at hstop
      rw [List.append_assoc] at hvalue
      exact r.eq_mark hhit hvalue (by rwa [starts_append hnil])

/-- Two texts that end alike end with the same character. -/
theorem suffix_of_shared {c : Char} {kept before : List Char} (hc : [c] <:+ kept)
    (hkept : kept <:+ before ∨ before <:+ kept) (hne : before ≠ []) : [c] <:+ before := by
  rcases hkept with hin | hin
  · exact hc.trans hin
  · exact List.suffix_of_suffix_length_le hc hin (List.length_pos_iff.2 hne)

/-- A bearer token follows a blank, so it is not inside a mark, and a header would have its value
there. -/
theorem spares_bearer : Spares authorizationReading bearer := by
  intro kept secret rest before intro j hhit hkept hintro hbefore
  obtain ⟨⟨hheaded, hlong⟩, hstarts, -⟩ := bearerReading.isHit_iff.1 hhit
  have hne : before ≠ [] := by
    rw [hbefore]
    exact List.append_ne_nil_of_left_ne_nil (authorizationReading.intro_ne_nil hintro) _
  have hblank : ∃ c, isBlank c = true ∧ [c] <:+ kept := hheaded.exists_blank hlong
  obtain ⟨c, hc, hlast⟩ := hblank
  have hend : [c] <:+ before := suffix_of_shared hlast hkept hne
  refine ⟨starts_mono (fun _ => isHeaderValue_of_isTokenChar) hstarts, ?_⟩
  cases j with
  | zero =>
    intro hhead
    rw [starts, hhead] at hstarts
    exact absurd hstarts (by decide)
  | succ j =>
    have hmem : c ∈ mark := by
      have hmark : mark.take (j + 1) ≠ [] := by
        rw [ne_eq, List.take_eq_nil_iff, not_or]
        exact ⟨Nat.succ_ne_zero j, by decide⟩
      rw [hbefore] at hend
      have hsuffix := List.suffix_of_suffix_length_le hend (List.suffix_append intro _)
        (List.length_pos_iff.2 hmark)
      exact List.mem_of_mem_take (hsuffix.subset (List.mem_singleton_self c))
    have hmark : mark.all isSolid = true := by decide
    have hsolid := List.all_eq_true.1 hmark c hmem
    rw [isSolid, hc] at hsolid
    cases hsolid

/-- An assigned value follows an equals sign, which is in no header and in no mark. -/
theorem spares_assignment : Spares authorizationReading assignment := by
  intro kept secret rest before intro j hhit hkept hintro hbefore
  obtain ⟨⟨name, rfl, -, -⟩, -, -⟩ := assignmentReading.isHit_iff.1 hhit
  have hne : before ≠ [] := by
    rw [hbefore]
    exact List.append_ne_nil_of_left_ne_nil (authorizationReading.intro_ne_nil hintro) _
  have hend : ['='] <:+ before := suffix_of_shared (List.suffix_append name _) hkept hne
  have hmem : '=' ∈ intro ++ mark.take j := hbefore ▸ hend.subset (List.mem_singleton_self '=')
  rcases List.mem_append.1 hmem with hin | hin
  · rcases hintro.1.mem hin with hword | hblank
    · exact absurd hword (by decide)
    · exact absurd hblank (by decide)
  · exact absurd (List.mem_of_mem_take hin) (by decide)

/-- A bare key begins with a letter that is in no mark. -/
theorem spares_bareKey (r : Reading f) (hs : r.opens 's' = true) : Spares r bareKey := by
  intro kept secret rest before intro j hhit _ _ _
  obtain ⟨run, after, hcs, -, -, -, hkept⟩ := bareKey_eq_some_iff.1 hhit.eq
  have hnil : kept = [] := List.length_eq_zero_iff.1 (Hit.mk.inj hkept).1
  subst hnil
  rw [List.nil_append] at hcs
  rw [hcs]
  refine ⟨hs, fun hhead => ?_⟩
  have hmem : 's' ∈ mark := List.mem_of_getElem? hhead.symm
  exact absurd hmem (by decide)

/-! ### All passes -/

theorem sound_of_mem_patterns (h : f ∈ patterns) : Sound f := by
  simp only [patterns, List.mem_cons, List.not_mem_nil, or_false] at h
  rcases h with rfl | rfl | rfl | rfl
  · exact authorizationReading.sound
  · exact bearerReading.sound
  · exact assignmentReading.sound
  · exact bareKey_sound

/-- A redacted text is settled for every pattern. -/
theorem settled_redact (cs : List Char) (h : f ∈ patterns) : Settled f (redact cs) := by
  have hbearer := fun cs => rewrites_replaceAll bearerReading.sound cs
  have hassignment := fun cs => rewrites_replaceAll assignmentReading.sound cs
  have hbareKey := fun cs => rewrites_replaceAll bareKey_sound cs
  have hno : bearerReading.opens '[' ≠ true := by decide
  simp only [patterns, List.mem_cons, List.not_mem_nil, or_false] at h
  rcases h with rfl | rfl | rfl | rfl
  · have h₁ := authorizationReading.settled_replaceAll cs
    have h₂ := authorizationReading.settled_of_rewrites h₁ (hbearer _) fun _ => spares_bearer
    have h₃ := authorizationReading.settled_of_rewrites h₂ (hassignment _) fun _ =>
      spares_assignment
    exact authorizationReading.settled_of_rewrites h₃ (hbareKey _) fun _ =>
      spares_bareKey authorizationReading rfl
  · have h₂ := bearerReading.settled_replaceAll (replaceAll authorization cs)
    have h₃ := bearerReading.settled_of_rewrites h₂ (hassignment _) fun h => absurd h hno
    exact bearerReading.settled_of_rewrites h₃ (hbareKey _) fun h => absurd h hno
  · have h₃ := assignmentReading.settled_replaceAll
      (replaceAll bearer (replaceAll authorization cs))
    exact assignmentReading.settled_of_rewrites h₃ (hbareKey _) fun _ =>
      spares_bareKey assignmentReading rfl
  · exact settled_replaceAll_bareKey _

theorem replaceAll_redact (cs : List Char) (h : f ∈ patterns) :
    replaceAll f (redact cs) = redact cs :=
  replaceAll_of_settled (sound_of_mem_patterns h) (settled_redact cs h)

theorem redact_redact (cs : List Char) : redact (redact cs) = redact cs := by
  have hfixed : ∀ fs : List Pattern, (∀ f ∈ fs, f ∈ patterns) →
      fs.foldl (fun text f => replaceAll f text) (redact cs) = redact cs := by
    intro fs hfs
    induction fs with
    | nil => rfl
    | cons f fs ih =>
      rw [List.foldl_cons, replaceAll_redact cs (hfs f List.mem_cons_self)]
      exact ih fun g hg => hfs g (List.mem_cons_of_mem f hg)
  exact hfixed patterns fun _ h => h

end McpConsole.Text.Redaction

namespace McpConsole.Text

open Redaction in
/-- **What is redacted stays as it is**: no pattern changes a redacted text, and to redact it once
more changes nothing. -/
theorem redacted_settled (s : String) :
    (∀ pattern ∈ patterns, replaceAll pattern (redacted s).toList = (redacted s).toList) ∧
      redacted (redacted s) = redacted s := by
  have htext : (redacted s).toList = redact s.toList := String.toList_ofList
  rw [htext]
  refine ⟨fun _ => replaceAll_redact s.toList, ?_⟩
  rw [redacted, htext, redact_redact, redacted]

example : redacted (redacted "KEY=sk-abcdef, authorization: Bearer sk-abcdef") =
    "KEY=[REDACTED] authorization: [REDACTED]" := by decide +kernel

end McpConsole.Text
