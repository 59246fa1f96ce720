import Mathlib.Data.List.DropRight
import McpConsole.Text.Blank

/-!
# Words and blanks

What the words of a text are does not depend on how the text is laid out. `LaysOut ws cs` says that
`cs` is written with the words `ws`: blanks stand between two words, and may stand around them all.
`words_eq_iff` says that these are the words that are read, and that every text is laid out with its
words. Trimming leaves nothing of a text that is blank, and of no other one (`isEmpty_trimmed`), and it
leaves a text as it is that has no blank at either end, and no other one (`trim_eq_self_iff`). Trimming
the end goes no further back than the last character that is not blank (`trimEnd_append`).
-/

namespace McpConsole.Text

/-- A word is not empty and has no blanks. -/
structure IsWord (word : List Char) : Prop where
  ne_nil : word ≠ []
  not_blank : ∀ c ∈ word, isBlank c = false

/-- A text made of blanks. -/
def IsGap (gap : List Char) : Prop :=
  ∀ c ∈ gap, isBlank c = true

/-- A text that a word before it ends at. -/
def EndsWord (cs : List Char) : Prop :=
  ∀ c, cs.head? = some c → isBlank c = true

/-- A text that is written with these words. -/
inductive LaysOut : List (List Char) → List Char → Prop
  | nil {gap : List Char} (hgap : IsGap gap) : LaysOut [] gap
  | cons {gap word rest : List Char} {ws : List (List Char)} (hgap : IsGap gap)
      (hword : IsWord word) (hends : EndsWord rest) (hrest : LaysOut ws rest) :
      LaysOut (word :: ws) (gap ++ (word ++ rest))

/-! ### Reading -/

theorem wordsFrom_gap {gap : List Char} (h : IsGap gap) (cs : List Char) :
    wordsFrom [] (gap ++ cs) = wordsFrom [] cs := by
  induction gap with
  | nil => rfl
  | cons c gap ih =>
    have hc : isBlank c = true := h c List.mem_cons_self
    have hgap : IsGap gap := fun d hd => h d (List.mem_cons_of_mem c hd)
    simp [wordsFrom, hc, ih hgap]

theorem wordsFrom_append {word : List Char} (h : ∀ c ∈ word, isBlank c = false)
    (begun rest : List Char) :
    wordsFrom begun (word ++ rest) = wordsFrom (begun ++ word) rest := by
  induction word generalizing begun with
  | nil => simp
  | cons c word ih =>
    have hc : isBlank c = false := h c List.mem_cons_self
    have hword : ∀ d ∈ word, isBlank d = false := fun d hd => h d (List.mem_cons_of_mem c hd)
    simp [wordsFrom, hc, ih hword]

theorem wordsFrom_of_endsWord {word rest : List Char} (hword : word ≠ []) (hends : EndsWord rest) :
    wordsFrom word rest = word :: wordsFrom [] rest := by
  cases rest with
  | nil => simp [wordsFrom, hword]
  | cons c rest =>
    have hc : isBlank c = true := hends c rfl
    simp [wordsFrom, hc, hword]

theorem words_of_laysOut {ws : List (List Char)} {cs : List Char} (h : LaysOut ws cs) :
    words cs = ws := by
  unfold words
  induction h with
  | nil hgap =>
    rename_i gap
    have hnil := wordsFrom_gap hgap []
    rw [List.append_nil] at hnil
    rw [hnil]
    rfl
  | cons hgap hword hends hrest ih =>
    rw [wordsFrom_gap hgap, wordsFrom_append hword.not_blank, List.nil_append,
      wordsFrom_of_endsWord hword.ne_nil hends, ih]

/-! ### Layouts -/

theorem LaysOut.blank {ws : List (List Char)} {cs : List Char} {c : Char} (h : LaysOut ws cs)
    (hc : isBlank c = true) : LaysOut ws (c :: cs) := by
  have hgap : ∀ {gap}, IsGap gap → IsGap (c :: gap) := by
    intro gap hgap d hd
    rcases List.mem_cons.1 hd with rfl | hd
    · exact hc
    · exact hgap d hd
  cases h with
  | nil h => exact .nil (hgap h)
  | cons h hword hends hrest => exact .cons (hgap h) hword hends hrest

theorem LaysOut.word {word rest : List Char} {ws : List (List Char)} (hword : IsWord word)
    (hends : EndsWord rest) (hrest : LaysOut ws rest) : LaysOut (word :: ws) (word ++ rest) := by
  have hgap : IsGap [] := List.forall_mem_nil _
  exact .cons hgap hword hends hrest

theorem endsWord_nil : EndsWord [] := by
  intro c hc
  cases hc

theorem endsWord_cons {c : Char} (hc : isBlank c = true) (cs : List Char) : EndsWord (c :: cs) := by
  intro d hd
  cases hd
  exact hc

/-- An open word and a text are laid out with the words that are read from there. -/
theorem laysOut_wordsFrom (cs : List Char) {word : List Char}
    (hword : ∀ c ∈ word, isBlank c = false) : LaysOut (wordsFrom word cs) (word ++ cs) := by
  induction cs generalizing word with
  | nil =>
    by_cases hne : word = []
    · subst hne
      exact .nil (List.forall_mem_nil _)
    · rw [wordsFrom_of_endsWord hne endsWord_nil]
      exact LaysOut.word ⟨hne, hword⟩ endsWord_nil (.nil (List.forall_mem_nil _))
  | cons c cs ih =>
    cases hc : isBlank c with
    | true =>
      have hnil : ∀ d ∈ ([] : List Char), isBlank d = false := List.forall_mem_nil _
      have hrest := (ih hnil).blank hc
      by_cases hne : word = []
      · subst hne
        simpa [wordsFrom, hc] using hrest
      · have hlay := LaysOut.word ⟨hne, hword⟩ (endsWord_cons hc cs) hrest
        simpa [wordsFrom, hc, hne] using hlay
    | false =>
      have hword' : ∀ d ∈ word ++ [c], isBlank d = false := by
        intro d hd
        rcases List.mem_append.1 hd with hd | hd
        · exact hword d hd
        · rw [List.mem_singleton.1 hd]
          exact hc
      simpa [wordsFrom, hc] using ih hword'

/-- **The words of a text** are those that it is laid out with. -/
theorem words_eq_iff {ws : List (List Char)} {cs : List Char} : words cs = ws ↔ LaysOut ws cs := by
  constructor
  · rintro rfl
    exact laysOut_wordsFrom cs (List.forall_mem_nil _)
  · exact words_of_laysOut

/-! ### Blank characters -/

theorem toNat_of_isBlank {c : Char} (h : isBlank c = true) :
    c.toNat ≤ 32 ∨ 133 ≤ c.toNat := by
  simp only [isBlank, inRanges, blankRanges, List.any_cons, List.any_nil, Bool.or_eq_true,
    Bool.and_eq_true, decide_eq_true_eq, Bool.false_eq_true, or_false] at h
  omega

theorem isAlphanum_of_isBlank {c : Char} (h : isBlank c = true) : c.isAlphanum = false := by
  have hn := toNat_of_isBlank h
  change ((decide (c.val ≥ 'A'.val ∧ c.val ≤ 'Z'.val) ||
    (decide (c.val ≥ 'a'.val) && decide (c.val ≤ 'z'.val))) ||
      (decide (c.val ≥ '0'.val) && decide (c.val ≤ '9'.val))) = false
  simp only [ge_iff_le, UInt32.le_iff_toNat_le, Char.toNat_val, Bool.or_eq_false_iff,
    Bool.and_eq_false_iff, decide_eq_false_iff_not]
  have hA : 'A'.toNat = 65 := rfl
  have hZ : 'Z'.toNat = 90 := rfl
  have ha : 'a'.toNat = 97 := rfl
  have hz : 'z'.toNat = 122 := rfl
  have h0 : '0'.toNat = 48 := rfl
  have h9 : '9'.toNat = 57 := rfl
  omega

theorem isBlank_of_isDigit {c : Char} (h : c.isDigit = true) : isBlank c = false := by
  rw [Bool.eq_false_iff]
  intro hblank
  have halphanum := isAlphanum_of_isBlank hblank
  rw [Char.isAlphanum, h, Bool.or_true] at halphanum
  cases halphanum

/-! ### Trimming -/

theorem trim_eq_nil_iff {cs : List Char} : trim cs = [] ↔ IsGap cs := by
  unfold trim trimEnd trimStart
  rw [List.reverse_eq_nil_iff, List.dropWhile_eq_nil_iff]
  constructor
  · intro h c hc
    rw [← List.takeWhile_append_dropWhile (p := isBlank) (l := cs)] at hc
    rcases List.mem_append.1 hc with hc | hc
    · exact List.all_eq_true.1 List.all_takeWhile c hc
    · exact h c (List.mem_reverse.2 hc)
  · intro h c hc
    rw [List.mem_reverse] at hc
    exact h c ((List.dropWhile_suffix isBlank).subset hc)

/-- A blank at the end does not count. -/
theorem trim_append_blank {c : Char} (h : isBlank c = true) (cs : List Char) :
    trim (cs ++ [c]) = trim cs := by
  unfold trim trimStart
  rw [List.dropWhile_append]
  cases cs.dropWhile isBlank with
  | nil => simp [h]
  | cons d ds => simp [trimEnd, h]

theorem isBlankText_iff {s : String} : isBlankText s = true ↔ trim s.toList = [] := by
  rw [isBlankText, List.all_eq_true, trim_eq_nil_iff]
  rfl

theorem trim_ne_nil {s : String} (h : isBlankText s = false) : trim s.toList ≠ [] := by
  rw [Ne, ← isBlankText_iff, h]
  decide

theorem isEmpty_trimmed (s : String) : (trimmed s).isEmpty = isBlankText s := by
  rw [Bool.eq_iff_iff, isBlankText_iff, trimmed, String.isEmpty_iff]
  simp

/-- A text with no blank at either end. -/
structure IsTrim (cs : List Char) : Prop where
  first : ∀ c, cs.head? = some c → isBlank c = false
  last : ∀ c, cs.getLast? = some c → isBlank c = false

theorem trimStart_eq_self_iff {cs : List Char} :
    trimStart cs = cs ↔ ∀ c, cs.head? = some c → isBlank c = false := by
  cases cs with
  | nil => simp [trimStart]
  | cons c cs => simp [trimStart, List.dropWhile_eq_self_iff]

theorem trimEnd_eq_self_iff {cs : List Char} :
    trimEnd cs = cs ↔ ∀ c, cs.getLast? = some c → isBlank c = false := by
  have hreverse : trimEnd cs = cs ↔ trimStart cs.reverse = cs.reverse := List.reverse_eq_iff
  rw [hreverse, trimStart_eq_self_iff, List.head?_reverse]

/-- **A text without blanks around it** is what is left of it by trimming. -/
theorem trim_eq_self_iff {cs : List Char} : trim cs = cs ↔ IsTrim cs := by
  constructor
  · intro h
    have hend : (trim cs).length ≤ (trimStart cs).length :=
      (List.rdropWhile_prefix isBlank (trimStart cs)).length_le
    have hsuffix : trimStart cs <:+ cs := List.dropWhile_suffix isBlank
    -- no character is lost at the end, hence none was lost at the beginning
    have hstart : trimStart cs = cs := by
      refine hsuffix.eq_of_length (Nat.le_antisymm hsuffix.length_le ?_)
      rwa [h] at hend
    rw [trim, hstart] at h
    exact ⟨trimStart_eq_self_iff.1 hstart, trimEnd_eq_self_iff.1 h⟩
  · rintro ⟨hfirst, hlast⟩
    rw [trim, trimStart_eq_self_iff.2 hfirst, trimEnd_eq_self_iff.2 hlast]

theorem isTrim_trim (cs : List Char) : IsTrim (trim cs) := by
  have hhead : ∀ {ds : List Char} {c : Char}, (ds.dropWhile isBlank).head? = some c →
      isBlank c = false := by
    intro ds c hc
    have hnot := List.head?_dropWhile_not isBlank ds
    rw [hc] at hnot
    exact hnot
  constructor
  · intro c hc
    obtain ⟨tail, htail⟩ := List.rdropWhile_prefix isBlank (trimStart cs)
    have hfirst : (trimStart cs).head? = some c := by
      rw [← htail, List.head?_append]
      exact Option.or_eq_some_iff.2 (.inl hc)
    exact hhead hfirst
  · intro c hc
    rw [trim, trimEnd, List.getLast?_reverse] at hc
    exact hhead hc

/-- What is trimmed already is left as it is. -/
theorem trim_trim (cs : List Char) : trim (trim cs) = trim cs :=
  trim_eq_self_iff.2 (isTrim_trim cs)

theorem trimmed_eq_self_iff {s : String} : trimmed s = s ↔ IsTrim s.toList := by
  rw [← trim_eq_self_iff, trimmed, ← String.toList_inj, String.toList_ofList]

theorem trimmed_trimmed (s : String) : trimmed (trimmed s) = trimmed s := by
  rw [trimmed, trimmed, String.toList_ofList, trim_trim]

/-- A string that is not blank and has no blank at either end. -/
def IsTidy (s : String) : Prop :=
  isBlankText s = false ∧ IsTrim s.toList

theorem trimmedNonBlank_some (s : String) :
    trimmedNonBlank (some s) = if isBlankText s then none else some (trimmed s) := by
  unfold trimmedNonBlank nonBlank
  cases h : isBlankText s <;> simp [Option.filter, h]

/-- Nothing is left of a string that is blank, and else what trimming leaves. -/
theorem getD_trimmedNonBlank (s : String) : (trimmedNonBlank (some s)).getD "" = trimmed s := by
  rw [trimmedNonBlank_some]
  split
  · rename_i hblank
    rw [← isEmpty_trimmed, String.isEmpty_iff] at hblank
    exact hblank.symm
  · rfl

theorem trimmedNonBlank_eq_self_iff {value : Option String} :
    trimmedNonBlank value = value ↔ ∀ s, value = some s → IsTidy s := by
  cases value with
  | none => exact ⟨fun _ => nofun, fun _ => rfl⟩
  | some s =>
    have hself : trimmedNonBlank (some s) = some s ↔ IsTidy s := by
      rw [trimmedNonBlank_some, IsTidy, ← trimmed_eq_self_iff]
      cases isBlankText s <;> simp
    rw [hself]
    exact ⟨fun h t ht => Option.some.inj ht ▸ h, fun h => h s rfl⟩

/-! ### The end of a text -/

theorem trimEnd_isPrefix (cs : List Char) : trimEnd cs <+: cs :=
  List.rdropWhile_prefix isBlank cs

/-- No blank is left at the end. -/
theorem isBlank_of_getLast?_trimEnd {cs : List Char} {c : Char}
    (h : (trimEnd cs).getLast? = some c) : isBlank c = false :=
  trimEnd_eq_self_iff.1 (List.rdropWhile_idempotent isBlank cs) c h

theorem trimEnd_eq_nil_of_isGap {gap : List Char} (h : IsGap gap) : trimEnd gap = [] :=
  List.rdropWhile_eq_nil_iff.2 h

/-- What stands before a text that is not blank is not trimmed. -/
theorem trimEnd_append {cs : List Char} (h : ∃ c ∈ cs, isBlank c = false) (front : List Char) :
    trimEnd (front ++ cs) = front ++ trimEnd cs := by
  have hne : ¬(cs.reverse.dropWhile isBlank).isEmpty = true := by
    obtain ⟨c, hc, hblank⟩ := h
    rw [List.isEmpty_iff, List.dropWhile_eq_nil_iff]
    intro hall
    rw [hall c (List.mem_reverse.2 hc)] at hblank
    cases hblank
  rw [trimEnd, List.reverse_append, List.dropWhile_append, if_neg hne, List.reverse_append,
    List.reverse_reverse, trimEnd]

/-- Blanks at the end do not count. -/
theorem trimEnd_append_gap {gap : List Char} (h : IsGap gap) (cs : List Char) :
    trimEnd (cs ++ gap) = trimEnd cs := by
  have hnil : (gap.reverse.dropWhile isBlank).isEmpty = true := by
    rw [List.isEmpty_iff, List.dropWhile_eq_nil_iff]
    exact fun c hc => h c (List.mem_reverse.1 hc)
  rw [trimEnd, List.reverse_append, List.dropWhile_append, if_pos hnil, trimEnd]

theorem isGap_or_visible (cs : List Char) : IsGap cs ∨ ∃ c ∈ cs, isBlank c = false := by
  rw [or_iff_not_imp_left]
  intro h
  simpa [IsGap] using h

/-- A text ends as its own end does. -/
theorem trimEnd_suffix_append (front cs : List Char) : trimEnd cs <:+ trimEnd (front ++ cs) := by
  rcases isGap_or_visible cs with h | h
  · rw [trimEnd_eq_nil_of_isGap h]
    exact List.nil_suffix
  · rw [trimEnd_append h]
    exact List.suffix_append front _

/-- What is trimmed are blanks. -/
theorem exists_gap_trimEnd (cs : List Char) : ∃ gap, IsGap gap ∧ trimEnd cs ++ gap = cs :=
  ⟨cs.rtakeWhile isBlank, fun _ hc => List.mem_rtakeWhile_imp hc,
    List.rdropWhile_append_rtakeWhile⟩

theorem mem_of_mem_trim {cs : List Char} {c : Char} (h : c ∈ trim cs) : c ∈ cs :=
  (List.dropWhile_suffix isBlank).subset ((trimEnd_isPrefix _).subset h)

end McpConsole.Text
