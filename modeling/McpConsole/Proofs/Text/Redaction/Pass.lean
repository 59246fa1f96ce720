import McpConsole.Proofs.Text.Redaction.Patterns

/-!
# One pattern moved over a text

`IsHit f kept secret rest` says that a pattern hits a text at its beginning, and into which three
pieces the hit cuts it. `Rewrites f cs ds` is the course of a pass over a whole text, and
`rewrites_replaceAll` says that `replaceAll` takes it. `Rewrites.origin` looks at the pass from its
result: what stands at the end of the new text stood there before, or lies behind the beginning of
a mark, or runs into a mark from before it.
-/

namespace McpConsole.Text.Redaction

variable {f : Pattern} {cs ds : List Char}

/-! ### Hits -/

/-- A pattern whose hits hide something and lie in the text. -/
def Sound (f : Pattern) : Prop :=
  ∀ ⦃cs : List Char⦄ ⦃hit : Hit⦄, f cs = some hit → hit.kept < hit.size ∧ hit.size ≤ cs.length

/-- The pattern hits the text made of the three pieces: the first stays and the second goes. -/
structure IsHit (f : Pattern) (kept secret rest : List Char) : Prop where
  ne_nil : secret ≠ []
  eq : f (kept ++ (secret ++ rest)) = some ⟨kept.length, kept.length + secret.length⟩

theorem Reading.sound (r : Reading f) : Sound f := by
  intro cs hit h
  obtain ⟨intro, value, rfl, -, hstarts, rfl⟩ := r.eq_some_iff.1 h
  have hpos := r.size_pos hstarts
  have hle := r.size_le value
  rw [List.length_append]
  exact ⟨by simpa using hpos, by simpa using hle⟩

/-- The pieces of a hit are an introduction and its secret. -/
theorem Reading.isHit_iff (r : Reading f) {kept secret rest : List Char} :
    IsHit f kept secret rest ↔ r.IsIntro kept ∧ starts r.opens (secret ++ rest) = true ∧
      secret.length = r.size (secret ++ rest) := by
  constructor
  · intro h
    obtain ⟨intro, value, hcs, hintro, hstarts, hhit⟩ := r.eq_some_iff.1 h.eq
    obtain ⟨hkept, hsize⟩ := Hit.mk.inj hhit
    obtain ⟨rfl, rfl⟩ := List.append_inj hcs hkept
    exact ⟨hintro, hstarts, Nat.add_left_cancel hsize⟩
  · rintro ⟨hintro, hstarts, hsize⟩
    have hpos := r.size_pos hstarts
    rw [← hsize] at hpos
    refine ⟨List.length_pos_iff.1 hpos, ?_⟩
    rw [hsize]
    exact r.eq_some_iff.2 ⟨kept, secret ++ rest, rfl, hintro, hstarts, rfl⟩

theorem bareKey_sound : Sound bareKey := by
  intro cs hit h
  obtain ⟨run, rest, rfl, -, -, -, rfl⟩ := bareKey_eq_some_iff.1 h
  have hlength : "sk-".toList.length = 3 := rfl
  rw [List.length_append, List.length_append, hlength]
  constructor
  · exact Nat.add_pos_left (Nat.zero_lt_succ 2) _
  · show 3 + run.length ≤ _
    omega

theorem exists_append_of_le {n : Nat} (h : n ≤ cs.length) :
    ∃ begun rest, cs = begun ++ rest ∧ begun.length = n :=
  ⟨cs.take n, cs.drop n, (List.take_append_drop n cs).symm, List.length_take_of_le h⟩

/-- A hit cuts the text in three. -/
theorem Sound.exists_isHit (hf : Sound f) {hit : Hit} (h : f cs = some hit) :
    ∃ kept secret rest, cs = kept ++ (secret ++ rest) ∧ IsHit f kept secret rest ∧
      hit = ⟨kept.length, kept.length + secret.length⟩ := by
  obtain ⟨hlt, hle⟩ := hf h
  obtain ⟨kept, after, rfl, hkept⟩ := exists_append_of_le (hlt.le.trans hle)
  have hafter : hit.size - hit.kept ≤ after.length := by
    rw [List.length_append] at hle
    omega
  obtain ⟨secret, rest, rfl, hsecret⟩ := exists_append_of_le hafter
  have hhit : hit = ⟨kept.length, kept.length + secret.length⟩ := by
    rw [hkept, hsecret, Nat.add_sub_cancel' hlt.le]
  have hne : secret ≠ [] := by
    rintro rfl
    rw [List.length_nil] at hsecret
    omega
  exact ⟨kept, secret, rest, rfl, ⟨hne, h.trans (congrArg some hhit)⟩, hhit⟩

theorem replaceAll_of_none {c : Char} (h : f (c :: cs) = none) :
    replaceAll f (c :: cs) = c :: replaceAll f cs := by
  rw [replaceAll, h]

theorem replaceAll_of_isHit {kept secret rest : List Char} (h : IsHit f kept secret rest) :
    replaceAll f (kept ++ (secret ++ rest)) = kept ++ (mark ++ replaceAll f rest) := by
  have hpos : 0 < secret.length := List.length_pos_iff.2 h.ne_nil
  have hne : kept ++ (secret ++ rest) ≠ [] := by simp [h.ne_nil]
  obtain ⟨c, tail, hcs⟩ := List.exists_cons_of_ne_nil hne
  have htake : (c :: tail).take kept.length = kept := by rw [← hcs, List.take_left]
  have hdrop : tail.drop (kept.length + secret.length - 1) = rest := by
    have hsucc : (c :: tail).drop (kept.length + secret.length) = rest := by
      rw [← hcs, ← List.append_assoc, ← List.length_append, List.drop_left]
    rwa [← Nat.sub_add_cancel (show 1 ≤ kept.length + secret.length by omega),
      List.drop_succ_cons] at hsucc
  have heq := h.eq
  rw [hcs] at heq ⊢
  rw [replaceAll, heq]
  simp only [htake, hdrop, List.append_assoc]

/-- A text in which nothing is hit from any place of its beginning stays there. -/
theorem replaceAll_append_of_none {xs : List Char} (rest : List Char)
    (h : ∀ j < xs.length, f (xs.drop j ++ rest) = none) :
    replaceAll f (xs ++ rest) = xs ++ replaceAll f rest := by
  induction xs with
  | nil => rfl
  | cons x xs ih =>
    have hhead : f (x :: (xs ++ rest)) = none := h 0 (Nat.zero_lt_succ _)
    have htail : ∀ j < xs.length, f (xs.drop j ++ rest) = none :=
      fun j hj => h (j + 1) (Nat.succ_lt_succ hj)
    rw [List.cons_append, replaceAll_of_none hhead, ih htail, List.cons_append]

/-- A piece without a bracket lies before the mark. -/
theorem exists_append_of_bracket {xs ys before : List Char} (hxs : '[' ∉ xs)
    (h : xs ++ ys = before ++ (mark ++ ds)) :
    ∃ value, before = xs ++ value ∧ ys = value ++ (mark ++ ds) := by
  rcases List.append_eq_append_iff.1 h with ⟨value, hbefore, hys⟩ | ⟨extra, rfl, hmark⟩
  · exact ⟨value, hbefore, hys⟩
  · cases extra with
    | nil => exact ⟨[], by simp, by simpa using hmark.symm⟩
    | cons c extra =>
      have hc : '[' = c := (List.cons_eq_cons.1 hmark).1
      subst hc
      exact absurd (by simp) hxs

/-! ### The course of a pass -/

/-- The course of a pass: a character where nothing is hit stays, and of a hit the secret is
hidden. -/
inductive Rewrites (f : Pattern) : List Char → List Char → Prop
  | nil : Rewrites f [] []
  | keep {c : Char} {cs ds : List Char} (hnone : f (c :: cs) = none) (hcs : Rewrites f cs ds) :
      Rewrites f (c :: cs) (c :: ds)
  | hide {kept secret rest ds : List Char} (hhit : IsHit f kept secret rest)
      (hrest : Rewrites f rest ds) :
      Rewrites f (kept ++ (secret ++ rest)) (kept ++ (mark ++ ds))

theorem rewrites_replaceAll (hf : Sound f) (cs : List Char) : Rewrites f cs (replaceAll f cs) := by
  induction hn : cs.length using Nat.strong_induction_on generalizing cs with
  | _ n ih =>
    cases cs with
    | nil =>
      rw [replaceAll]
      exact .nil
    | cons c cs =>
      cases h : f (c :: cs) with
      | none =>
        rw [replaceAll_of_none h]
        exact .keep h (ih cs.length (by simp [← hn]) cs rfl)
      | some hit =>
        obtain ⟨kept, secret, rest, hcs, hhit, -⟩ := hf.exists_isHit h
        have hpos : 0 < secret.length := List.length_pos_iff.2 hhit.ne_nil
        have hless : rest.length < n := by
          rw [← hn, hcs, List.length_append, List.length_append]
          omega
        rw [hcs, replaceAll_of_isHit hhit]
        exact .hide hhit (ih rest.length hless rest rfl)

/-- Behind a hit of a pattern that keeps an introduction the text begins as before. -/
theorem Rewrites.starts_eq (r : Reading f) (h : Rewrites f cs ds) (p : Char → Bool) :
    starts p ds = starts p cs := by
  cases h with
  | nil => rfl
  | keep hnone hcs => rfl
  | hide hhit hrest =>
    have hne := r.intro_ne_nil (r.isHit_iff.1 hhit).1
    rw [starts_append hne, starts_append hne]

theorem Rewrites.mem (h : Rewrites f cs ds) {c : Char} (hc : c ∈ ds) : c ∈ cs ∨ c ∈ mark := by
  induction h with
  | nil => exact .inl hc
  | keep hnone hcs ih =>
    rcases List.mem_cons.1 hc with rfl | hc
    · exact .inl List.mem_cons_self
    · exact (ih hc).imp_left (List.mem_cons_of_mem _)
  | hide hhit hrest ih =>
    simp only [List.mem_append] at hc ⊢
    rcases hc with hc | hc | hc
    · exact .inl (.inl hc)
    · exact .inr hc
    · exact (ih hc).imp_left fun h => .inr (.inr h)

theorem Rewrites.ne_nil (h : Rewrites f cs ds) (hne : cs ≠ []) : ds ≠ [] := by
  cases h with
  | nil => exact absurd rfl hne
  | keep hnone hcs => exact List.cons_ne_nil _ _
  | hide hhit hrest => exact List.append_ne_nil_of_right_ne_nil _ (List.cons_ne_nil _ _)

/-! ### The origin of what a pass leaves -/

/-- Where a text that a pass leaves comes from. -/
inductive Origin (f : Pattern) (cs : List Char) : List Char → Prop
  /-- It begins inside a mark. -/
  | inside (j : Nat) (hj : j < mark.length) (ds : List Char) : Origin f cs (mark.drop j ++ ds)
  /-- It stood there before. -/
  | plain {before : List Char} (hcs : before <:+ cs) (hnone : f before = none) :
      Origin f cs before
  /-- It begins before a mark. The text that the mark stands in begins with what a hit keeps, or
  stands at its end. -/
  | ahead {before kept secret rest ds : List Char} (hne : before ≠ [])
      (hcs : before ++ (secret ++ rest) <:+ cs) (hhit : IsHit f kept secret rest)
      (hrest : Rewrites f rest ds)
      (hkept : kept <:+ before ∧ f (before ++ (secret ++ rest)) = none ∨ before <:+ kept) :
      Origin f cs (before ++ (mark ++ ds))

/-- The text before the first mark of a pass. -/
theorem Rewrites.first (h : Rewrites f cs ds) : ds = cs ∨
    ∃ before kept secret rest es, cs = before ++ (secret ++ rest) ∧ ds = before ++ (mark ++ es) ∧
      kept <:+ before ∧ IsHit f kept secret rest ∧ Rewrites f rest es := by
  induction h with
  | nil => exact .inl rfl
  | keep hnone hcs ih =>
    rename_i c cs ds
    rcases ih with rfl | ⟨before, kept, secret, rest, es, rfl, rfl, hkept, hhit, hrest⟩
    · exact .inl rfl
    · exact .inr ⟨c :: before, kept, secret, rest, es, rfl, rfl,
        hkept.trans (List.suffix_cons c before), hhit, hrest⟩
  | hide hhit hrest ih =>
    exact .inr ⟨_, _, _, _, _, rfl, rfl, List.suffix_refl _, hhit, hrest⟩

theorem Origin.mono {us : List Char} (h : Origin f cs us) {all : List Char} (hcs : cs <:+ all) :
    Origin f all us := by
  cases h with
  | inside j hj ds => exact .inside j hj ds
  | plain hsuffix hnone => exact .plain (hsuffix.trans hcs) hnone
  | ahead hne hsuffix hhit hrest hkept => exact .ahead hne (hsuffix.trans hcs) hhit hrest hkept

/-- A text at the end of two texts lies in the second or begins in the first. -/
theorem suffix_append_cases {us xs ys : List Char} (h : us <:+ xs ++ ys) :
    us <:+ ys ∨ ∃ begun, begun ≠ [] ∧ begun <:+ xs ∧ us = begun ++ ys := by
  induction xs with
  | nil => exact .inl h
  | cons x xs ih =>
    rw [List.cons_append, List.suffix_cons_iff] at h
    rcases h with rfl | h
    · exact .inr ⟨x :: xs, List.cons_ne_nil x xs, List.suffix_refl _, rfl⟩
    · rcases ih h with hys | ⟨begun, hne, hxs, rfl⟩
      · exact .inl hys
      · exact .inr ⟨begun, hne, hxs.trans (List.suffix_cons x xs), rfl⟩

/-- **What stands at the end of a text that a pass left** was there before, or has to do with a
mark. -/
theorem Rewrites.origin (h : Rewrites f cs ds) {us : List Char} (hus : us <:+ ds) (hne : us ≠ []) :
    Origin f cs us := by
  induction h with
  | nil => exact absurd (List.suffix_nil.1 hus) hne
  | keep hnone hcs ih =>
    rename_i c cs ds
    rcases List.suffix_cons_iff.1 hus with rfl | hin
    · rcases hcs.first with rfl | ⟨before, kept, secret, rest, es, rfl, rfl, hkept, hhit, hrest⟩
      · exact .plain (List.suffix_refl _) hnone
      · have hcons : kept <:+ c :: before := hkept.trans (List.suffix_cons c before)
        exact .ahead (List.cons_ne_nil c before) (List.suffix_refl _) hhit hrest
          (.inl ⟨hcons, hnone⟩)
    · exact (ih hin).mono (List.suffix_cons c cs)
  | hide hhit hrest ih =>
    rename_i kept secret rest ds
    rcases suffix_append_cases hus with hin | ⟨begun, hbegun, hkept, rfl⟩
    · rcases suffix_append_cases hin with hin | ⟨begun, hbegun, hmark, rfl⟩
      · exact (ih hin).mono ((List.suffix_append secret rest).trans (List.suffix_append kept _))
      · obtain ⟨gone, hgone⟩ := hmark
        have hj : gone.length < mark.length := by
          have hpos := List.length_pos_iff.2 hbegun
          rw [← hgone, List.length_append]
          omega
        have hbegin : mark.drop gone.length = begun := by rw [← hgone, List.drop_left]
        rw [← hbegin]
        exact .inside gone.length hj ds
    · have hsuffix : begun ++ (secret ++ rest) <:+ kept ++ (secret ++ rest) := by
        obtain ⟨gone, rfl⟩ := hkept
        rw [List.append_assoc]
        exact List.suffix_append gone _
      exact .ahead hbegun hsuffix hhit hrest (.inr hkept)

end McpConsole.Text.Redaction
