import McpConsole.Proofs.Text.Redaction.Pass

/-!
# How far a pass reaches into what follows

A pass over a text and what follows it is a pass over the text first. `leads_cases` says how it
comes to the end of the text: it has come to the end exactly, or a hit that began in the text has
hidden the beginning of what follows, whatever that is. `Fate` is what can happen at one place of
the text. The fates of a text before a known piece (`Behind`) are found for each pattern:
`fate_authorization`, `fate_bearer`, `fate_assignment_of_stop` and `fate_bareKey`.
-/

namespace McpConsole.Text.Redaction

variable {f : Pattern} {B : List Char → Prop} {reach : List Char → Nat}

/-! ### A pass over a text and what follows it -/

/-- Whatever follows the text, a pass over both begins with the same text and goes on with what
`out` makes of what follows. -/
def Leads (f : Pattern) (B : List Char → Prop) (cs : List Char)
    (out : List Char → List Char) : Prop :=
  ∃ begun, ∀ b, B b → replaceAll f (cs ++ b) = begun ++ out b

/-- What a pass leaves of a text whose beginning was hidden. -/
def covered (f : Pattern) (reach : List Char → Nat) (b : List Char) : List Char :=
  mark ++ replaceAll f (b.drop (reach b))

/-- What a pattern does at a text that goes on with one of several texts: it hits nothing, it hits
something in the text itself, or it hides what follows as far as it reaches there. -/
inductive Fate (f : Pattern) (B : List Char → Prop) (reach : List Char → Nat) :
    List Char → Prop
  | skip {cs : List Char} (h : ∀ b, B b → f (cs ++ b) = none) : Fate f B reach cs
  | inside {kept secret rest : List Char} (hne : secret ≠ [])
      (h : ∀ b, B b → IsHit f kept secret (rest ++ b)) :
      Fate f B reach (kept ++ (secret ++ rest))
  | across {cs : List Char} (h : Leads f B cs (covered f reach)) : Fate f B reach cs

theorem Leads.prepend {cs ds front : List Char} {out : List Char → List Char}
    (h : Leads f B ds out)
    (hstep : ∀ b, B b → replaceAll f (cs ++ b) = front ++ replaceAll f (ds ++ b)) :
    Leads f B cs out := by
  obtain ⟨begun, hgo⟩ := h
  refine ⟨front ++ begun, fun b hb => ?_⟩
  rw [hstep b hb, hgo b hb, List.append_assoc]

/-- **A pass over a text and what follows it** comes to the end of the text, or hides the beginning
of what follows. -/
theorem leads_cases (cs : List Char) (h : ∀ us, us ≠ [] → us <:+ cs → Fate f B reach us) :
    Leads f B cs (replaceAll f) ∨ Leads f B cs (covered f reach) := by
  induction hn : cs.length using Nat.strong_induction_on generalizing cs with
  | _ n ih =>
    cases cs with
    | nil => exact .inl ⟨[], fun b _ => rfl⟩
    | cons c cs =>
      have hfate := h (c :: cs) (List.cons_ne_nil c cs) (List.suffix_refl _)
      generalize hus : c :: cs = us at hfate
      cases hfate with
      | skip hnone =>
        subst hus
        have hcs : ∀ us, us ≠ [] → us <:+ cs → Fate f B reach us :=
          fun us hne hin => h us hne (hin.trans (List.suffix_cons c cs))
        have hstep : ∀ b, B b → replaceAll f (c :: cs ++ b) = [c] ++ replaceAll f (cs ++ b) :=
          fun b hb => replaceAll_of_none (hnone b hb)
        have hless : cs.length < n := by simp [← hn]
        exact (ih cs.length hless cs hcs rfl).imp (·.prepend hstep) (·.prepend hstep)
      | inside hne hhit =>
        rename_i kept secret rest
        have hpos : 0 < secret.length := List.length_pos_iff.2 hne
        have hless : rest.length < n := by
          rw [← hn, hus, List.length_append, List.length_append]
          omega
        have hsuffix : rest <:+ c :: cs :=
          hus ▸ (List.suffix_append secret rest).trans (List.suffix_append kept _)
        have hrest : ∀ us, us ≠ [] → us <:+ rest → Fate f B reach us :=
          fun us hne hin => h us hne (hin.trans hsuffix)
        have hstep : ∀ b, B b → replaceAll f (kept ++ (secret ++ rest) ++ b) =
            (kept ++ mark) ++ replaceAll f (rest ++ b) := by
          intro b hb
          rw [List.append_assoc, List.append_assoc, replaceAll_of_isHit (hhit b hb),
            List.append_assoc]
        exact (ih rest.length hless rest hrest rfl).imp (·.prepend hstep) (·.prepend hstep)
      | across hacross =>
        subst hus
        exact .inr hacross

/-- Of a text that goes on, a length function measures a part of the text itself, or all of it and
what follows as far as it reaches there. -/
def Scanned (B : List Char → Prop) (reach size : List Char → Nat) (cs : List Char) : Prop :=
  (∃ n ≤ cs.length, ∀ b, B b → size (cs ++ b) = n) ∨
    ∀ b, B b → size (cs ++ b) = cs.length + reach b

/-- The fate of a text whose beginning is an introduction, whatever follows the text. -/
theorem fate_of_hits (hf : Sound f) (hB : ∃ b, B b) {intro value : List Char}
    {size : List Char → Nat} (hsome : ∀ b, B b → f (intro ++ (value ++ b)) =
      some ⟨intro.length, intro.length + size (value ++ b)⟩)
    (hsize : Scanned B reach size value) : Fate f B reach (intro ++ value) := by
  rcases hsize with ⟨n, hn, hsize⟩ | hsize
  · obtain ⟨secret, rest, rfl, rfl⟩ := exists_append_of_le hn
    obtain ⟨b₀, hb₀⟩ := hB
    have hpos : intro.length < intro.length + secret.length := by
      have hlt := (hf (hsome b₀ hb₀)).1
      rwa [hsize b₀ hb₀] at hlt
    have hne : secret ≠ [] := List.length_pos_iff.1 (by omega)
    refine .inside hne fun b hb => ⟨hne, ?_⟩
    rw [← List.append_assoc secret, hsome b hb, hsize b hb]
  · refine .across ⟨intro, fun b hb => ?_⟩
    obtain ⟨hlt, hle⟩ := hf (hsome b hb)
    rw [hsize b hb, List.length_append, List.length_append] at hle
    rw [hsize b hb] at hlt
    have hreach : reach b ≤ b.length := by
      dsimp only at hle
      omega
    have hsplit : value ++ b = (value ++ b.take (reach b)) ++ b.drop (reach b) := by
      rw [List.append_assoc, List.take_append_drop]
    have hlength : (value ++ b.take (reach b)).length = value.length + reach b := by
      rw [List.length_append, List.length_take_of_le hreach]
    have hhit : IsHit f intro (value ++ b.take (reach b)) (b.drop (reach b)) := by
      constructor
      · apply List.length_pos_iff.1
        dsimp only at hlt
        omega
      · rw [← hsplit, hsome b hb, hsize b hb, hlength]
    rw [List.append_assoc, hsplit, replaceAll_of_isHit hhit, covered]

theorem scanned_runLength (p : Char → Bool) (cs : List Char) :
    Scanned B (runLength p) (runLength p) cs := by
  obtain ⟨xs, ys, rfl, hxs, hys⟩ := exists_run p cs
  by_cases hnil : ys = []
  · subst hnil
    right
    intro b _
    rw [List.append_nil, runLength_append hxs]
  · refine .inl ⟨xs.length, by simp, fun b _ => ?_⟩
    rw [List.append_assoc, runLength_append_stop hxs]
    rwa [starts_append hnil]

/-! ### What stands behind the text -/

/-- A text without blanks, which may be empty. -/
def IsDense (cs : List Char) : Prop :=
  ∀ c ∈ cs, isBlank c = false

/-- A piece and a text without blanks. -/
def Behind (piece b : List Char) : Prop :=
  ∃ value, b = piece ++ value ∧ IsDense value

/-- Neither the word nor an end of it begins as the piece does. -/
def Blocks (piece word : List Char) : Prop :=
  ∀ j < word.length, clashes (word.drop j) piece = true

instance (piece word : List Char) : Decidable (Blocks piece word) :=
  inferInstanceAs (Decidable (∀ j < word.length, clashes (word.drop j) piece = true))

/-- The name of a secret setting and the equals sign before its value. -/
def key : List Char :=
  "TOKEN=".toList

theorem isDense_of_all {cs : List Char} (h : cs.all isSolid = true) : IsDense cs := by
  intro c hc
  have hsolid := List.all_eq_true.1 h c hc
  rwa [isSolid, Bool.not_eq_true'] at hsolid

theorem isDense_nil : IsDense [] :=
  List.forall_mem_nil _

theorem isDense_mark : IsDense mark :=
  isDense_of_all (by decide)

theorem exists_behind (piece : List Char) : ∃ b, Behind piece b :=
  ⟨piece, [], by simp, isDense_nil⟩

theorem starts_behind {piece b : List Char} (hb : Behind piece b) (hne : piece ≠ [])
    (p : Char → Bool) (cs : List Char) : starts p (cs ++ b) = starts p (cs ++ piece) := by
  obtain ⟨value, rfl, -⟩ := hb
  rw [← List.append_assoc, starts_append (by simp [hne])]

theorem starts_behind_eq_false {p : Char → Bool} {piece b cs : List Char} (hb : Behind piece b)
    (hne : piece ≠ []) (hpiece : starts p piece = false) (hcs : starts p cs = false) :
    starts p (cs ++ b) = false := by
  rw [starts_behind hb hne]
  by_cases hnil : cs = []
  · rwa [hnil, List.nil_append]
  · rwa [starts_append hnil]

theorem afterWord_behind {piece word cs b : List Char} (hb : Behind piece b)
    (hblocks : Blocks piece word) (h : afterWord word cs = none) :
    afterWord word (cs ++ b) = none := by
  obtain ⟨value, rfl, -⟩ := hb
  induction word generalizing cs with
  | nil => cases h
  | cons w word ih =>
    cases cs with
    | nil =>
      exact afterWord_of_clashes (hblocks 0 (Nat.zero_lt_succ _)) value
    | cons c cs =>
      have htail : Blocks piece word := fun j hj => hblocks (j + 1) (Nat.succ_lt_succ hj)
      rw [afterWord] at h
      rw [List.cons_append, afterWord]
      by_cases hc : foldCase c = w
      · rw [if_pos hc] at h ⊢
        exact ih htail h
      · rw [if_neg hc]

/-! ### Before the key -/

/-- The scheme of a header value lies before the key. -/
theorem schemeLength_behind (scheme : List Char) (hblocks : Blocks key scheme) (cs : List Char) :
    ∃ n ≤ cs.length, ∀ b, Behind key b → schemeLength scheme (cs ++ b) = n := by
  rcases headed_cases scheme cs with hnone | ⟨intro, value, rfl, hintro, hvalue⟩
  · exact ⟨0, Nat.zero_le _, fun b hb => schemeLength_of_none (afterWord_behind hb hblocks hnone)⟩
  · have hlength : ∀ b, Behind key b → schemeLength scheme (intro ++ value ++ b) =
        if scheme.length < intro.length ∧ starts isHeaderValue (value ++ key) = true then
          intro.length else 0 := by
      intro b hb
      have hblank := starts_behind_eq_false hb (by decide) (by decide) hvalue
      rw [List.append_assoc, schemeLength_append hintro hblank, starts_behind hb (by decide)]
    refine ⟨_, ?_, hlength⟩
    split
    · simp
    · exact Nat.zero_le _

theorem scanned_valueLength (cs : List Char) :
    Scanned (Behind key) (runLength isHeaderValue) valueLength cs := by
  obtain ⟨m, hm, hbearer⟩ := schemeLength_behind "bearer".toList (by decide) cs
  obtain ⟨n, hn, hbasic⟩ := schemeLength_behind "basic".toList (by decide) cs
  obtain ⟨begun, rest, rfl, hbegun⟩ := exists_append_of_le (Nat.max_le.2 ⟨hm, hn⟩)
  have hlength : ∀ b, Behind key b → valueLength (begun ++ rest ++ b) =
      begun.length + runLength isHeaderValue (rest ++ b) := by
    intro b hb
    have hscheme : schemeSize (begun ++ rest ++ b) = begun.length := by
      rw [schemeSize, hbearer b hb, hbasic b hb, hbegun]
    rw [valueLength, hscheme, List.append_assoc, List.drop_left]
  rcases scanned_runLength (B := Behind key) isHeaderValue rest with ⟨k, hk, hrun⟩ | hrun
  · refine .inl ⟨begun.length + k, by simpa using hk, fun b hb => ?_⟩
    rw [hlength b hb, hrun b hb]
  · refine .inr fun b hb => ?_
    rw [hlength b hb, hrun b hb, List.length_append, Nat.add_assoc]

/-- The fate of a text before a piece that the word of the pattern does not go into. -/
theorem Heads.fate {word piece : List Char} {gap : Nat} {opens : Char → Bool}
    {size : List Char → Nat} (h : Heads f word gap opens size) (hf : Sound f)
    (hpiece : starts isSolid piece = true) (hblocks : Blocks piece word)
    (hscanned : ∀ value, Scanned (Behind piece) reach size value) (cs : List Char) :
    Fate f (Behind piece) reach cs := by
  have hne := ne_nil_of_starts hpiece
  rcases headed_cases word cs with hnone | ⟨intro, value, rfl, hintro, hvalue⟩
  · exact .skip fun b hb => h.of_none (afterWord_behind hb hblocks hnone)
  · have hhere : ∀ b, Behind piece b → f (intro ++ (value ++ b)) =
        if word.length + gap ≤ intro.length ∧ starts opens (value ++ piece) = true then
          some ⟨intro.length, intro.length + size (value ++ b)⟩ else none := by
      intro b hb
      have hblank := starts_behind_eq_false hb hne (starts_isBlank hpiece) hvalue
      rw [h.append hintro hblank, starts_behind hb hne]
    by_cases hgo : word.length + gap ≤ intro.length ∧ starts opens (value ++ piece) = true
    · refine fate_of_hits hf (exists_behind piece) (fun b hb => ?_) (hscanned value)
      rw [hhere b hb, if_pos hgo]
    · refine .skip fun b hb => ?_
      rw [List.append_assoc, hhere b hb, if_neg hgo]

theorem fate_authorization (cs : List Char) :
    Fate authorization (Behind key) (runLength isHeaderValue) cs :=
  heads_authorization.fate authorizationReading.sound (by decide) (by decide) scanned_valueLength cs

theorem scanned_tokenLength {piece : List Char} (hne : piece ≠ [])
    (heq : starts (· == '=') piece = false) (cs : List Char) :
    Scanned (Behind piece) tokenLength tokenLength cs := by
  obtain ⟨token, after, rfl, htoken, hafter⟩ := exists_run isTokenChar cs
  by_cases hnil : after = []
  · subst hnil
    refine .inr fun b _ => ?_
    have hdrop : (token ++ b).drop (token.length + runLength isTokenChar b) =
        b.drop (runLength isTokenChar b) := by
      rw [← List.drop_drop, List.drop_left]
    rw [List.append_nil, tokenLength, runLength_append htoken, hdrop, Nat.add_assoc, tokenLength]
  · obtain ⟨pad, rest, rfl, hpad, hrest⟩ := exists_run (· == '=') after
    refine .inl ⟨token.length + pad.length, by simp, fun b hb => ?_⟩
    have hrun : runLength isTokenChar (token ++ (pad ++ rest) ++ b) = token.length := by
      rw [List.append_assoc, runLength_append_stop htoken]
      rwa [starts_append hnil]
    have hpads : runLength (· == '=') (pad ++ (rest ++ b)) = pad.length :=
      runLength_append_stop hpad (starts_behind_eq_false hb hne heq hrest)
    rw [tokenLength, hrun, List.append_assoc, List.drop_left, List.append_assoc, hpads]

theorem fate_bearer (piece : List Char) (hpiece : starts isSolid piece = true)
    (heq : starts (· == '=') piece = false) (hblocks : Blocks piece "bearer".toList)
    (cs : List Char) : Fate bearer (Behind piece) tokenLength cs :=
  heads_bearer.fate bearerReading.sound hpiece hblocks
    (scanned_tokenLength (ne_nil_of_starts hpiece) heq) cs

/-- The fate of a text with a character that is in no name. -/
theorem fate_assignment_of_stop (hB : ∃ b, B b) (hsolid : ∀ b, B b → starts isSolid b = true)
    {name rest : List Char} {c : Char} (hname : ∀ d ∈ name, isNameChar d = true)
    (hc : isNameChar c = false) :
    Fate assignment B (runLength isSolid) (name ++ c :: rest) := by
  by_cases heq : c = '='
  · subst heq
    have hstarts : ∀ b, B b →
        starts isSolid (rest ++ b) = (rest.isEmpty || starts isSolid rest) := by
      intro b hb
      cases rest with
      | nil => exact hsolid b hb
      | cons d rest => rfl
    cases hgo : namesSecret name && (rest.isEmpty || starts isSolid rest) with
    | false =>
      refine .skip fun b hb => ?_
      rw [List.append_assoc, List.cons_append, assignment_append hname, hstarts b hb, hgo]
      rfl
    | true =>
      rw [← List.singleton_append, ← List.append_assoc]
      refine fate_of_hits assignmentReading.sound hB (fun b hb => ?_)
        (scanned_runLength isSolid rest)
      rw [List.append_assoc, List.singleton_append, assignment_append hname, hstarts b hb, hgo,
        List.length_append, List.length_singleton]
      rfl
  · refine .skip fun b _ => ?_
    rw [List.append_assoc]
    exact assignment_of_ne hname hc (by simpa using heq)

/-- No bare key goes into a mark. -/
theorem fate_bareKey (cs : List Char) : Fate bareKey (Behind mark) (fun _ => 0) cs := by
  by_cases hkey : ∃ after, cs = "sk-".toList ++ after
  · obtain ⟨after, rfl⟩ := hkey
    obtain ⟨run, rest, rfl, hrun, hrest⟩ := exists_run isKeyChar after
    have hhere : ∀ b, Behind mark b → bareKey ("sk-".toList ++ (run ++ rest) ++ b) =
        if run.length < 6 then none else some ⟨0, 3 + run.length⟩ := by
      intro b hb
      rw [List.append_assoc, List.append_assoc]
      exact bareKey_append hrun (starts_behind_eq_false hb (by decide) (by decide) hrest)
    by_cases hshort : run.length < 6
    · exact .skip fun b hb => by rw [hhere b hb, if_pos hshort]
    · have hne : "sk-".toList ++ run ≠ [] := List.append_ne_nil_of_left_ne_nil (by decide) _
      have hfate : Fate bareKey (Behind mark) (fun _ => 0)
          ([] ++ (("sk-".toList ++ run) ++ rest)) := by
        refine .inside hne fun b hb => ⟨hne, ?_⟩
        have hsome := hhere b hb
        rw [if_neg hshort, List.append_assoc, List.append_assoc] at hsome
        rw [List.nil_append, List.append_assoc, hsome, List.length_append, List.length_nil,
          Nat.zero_add]
        rfl
      rwa [List.nil_append, List.append_assoc] at hfate
  · refine .skip fun b hb => ?_
    obtain ⟨value, rfl, -⟩ := hb
    cases h : bareKey (cs ++ (mark ++ value)) with
    | none => rfl
    | some hit =>
      obtain ⟨run, rest, hcs, -⟩ := bareKey_eq_some_iff.1 h
      obtain ⟨after, hafter, -⟩ := exists_append_of_bracket (by decide) hcs.symm
      exact absurd ⟨after, hafter⟩ hkey

end McpConsole.Text.Redaction
