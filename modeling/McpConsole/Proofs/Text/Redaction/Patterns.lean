import McpConsole.Proofs.Text.Blank
import McpConsole.Text.Redaction

/-!
# What the patterns read

A pattern reads an introduction, which stays, and a secret behind it, which begins with a character
of a class. `authorization_append`, `bearer_append` and `assignment_append` say what each of the
first three patterns makes of a text whose introduction is known, whatever follows; the first two
read a word and are two cases of `Heads`. `Reading` is this form with the facts about it that the
passes over a text use: where there is a hit, how long it is, and how introductions and the mark of
a hidden secret lie to each other.
-/

namespace McpConsole.Text.Redaction

variable {f : Pattern} {p : Char → Bool} {cs : List Char}

/-! ### Runs of a class -/

/-- Whether a text begins with a character of a class. -/
def starts (p : Char → Bool) (cs : List Char) : Bool :=
  cs.head?.any p

/-- Whether a character can be part of an assigned value. -/
def isSolid (c : Char) : Bool :=
  !isBlank c

@[simp] theorem starts_nil (p : Char → Bool) : starts p [] = false := rfl

@[simp] theorem starts_cons (p : Char → Bool) (c : Char) (cs : List Char) :
    starts p (c :: cs) = p c := rfl

theorem starts_append {xs : List Char} (h : xs ≠ []) (ys : List Char) :
    starts p (xs ++ ys) = starts p xs := by
  cases xs with
  | nil => exact absurd rfl h
  | cons x xs => rfl

theorem ne_nil_of_starts (h : starts p cs = true) : cs ≠ [] := by
  rintro rfl
  cases h

/-- A text that begins with a character of one class begins with one of a class that holds it. -/
theorem starts_mono {q : Char → Bool} (hpq : ∀ c, p c = true → q c = true)
    (h : starts p cs = true) : starts q cs = true := by
  cases cs with
  | nil => cases h
  | cons c cs => exact hpq c h

theorem starts_isBlank (h : starts isSolid cs = true) : starts isBlank cs = false := by
  cases cs with
  | nil => rfl
  | cons c cs =>
    rw [starts_cons, isSolid, Bool.not_eq_true'] at h
    exact h

theorem runLength_le (p : Char → Bool) (cs : List Char) : runLength p cs ≤ cs.length :=
  (List.takeWhile_prefix p).length_le

theorem runLength_append {xs : List Char} (h : ∀ c ∈ xs, p c = true) (ys : List Char) :
    runLength p (xs ++ ys) = xs.length + runLength p ys := by
  rw [runLength, List.takeWhile_append_of_pos h, List.length_append, runLength]

theorem runLength_eq_zero (h : starts p cs = false) : runLength p cs = 0 := by
  cases cs with
  | nil => rfl
  | cons c cs =>
    rw [starts_cons] at h
    simp [runLength, h]

theorem runLength_pos (h : starts p cs = true) : 0 < runLength p cs := by
  cases cs with
  | nil => cases h
  | cons c cs =>
    rw [starts_cons] at h
    simp [runLength, h]

/-- A run ends where its class does. -/
theorem starts_drop_runLength (p : Char → Bool) (cs : List Char) :
    starts p (cs.drop (runLength p cs)) = false := by
  induction cs with
  | nil => rfl
  | cons c cs ih =>
    cases hc : p c with
    | false => simp [runLength, hc]
    | true => simpa [runLength, hc] using ih

theorem runLength_append_stop {xs ys : List Char} (h : ∀ c ∈ xs, p c = true)
    (hys : starts p ys = false) : runLength p (xs ++ ys) = xs.length := by
  rw [runLength_append h, runLength_eq_zero hys, Nat.add_zero]

/-- Every text begins with a run of a class, which may be empty. -/
theorem exists_run (p : Char → Bool) (cs : List Char) :
    ∃ xs ys, cs = xs ++ ys ∧ (∀ c ∈ xs, p c = true) ∧ starts p ys = false := by
  induction cs with
  | nil => exact ⟨[], [], rfl, List.forall_mem_nil _, rfl⟩
  | cons c cs ih =>
    cases hc : p c with
    | false => exact ⟨[], c :: cs, rfl, List.forall_mem_nil _, hc⟩
    | true =>
      obtain ⟨xs, ys, rfl, hxs, hys⟩ := ih
      exact ⟨c :: xs, ys, rfl, List.forall_mem_cons.2 ⟨hc, hxs⟩, hys⟩

/-! ### Words in any case -/

theorem afterWord_eq_some_iff {word rest : List Char} :
    afterWord word cs = some rest ↔ ∃ name, cs = name ++ rest ∧ name.map foldCase = word := by
  induction word generalizing cs with
  | nil =>
    constructor
    · intro h
      cases h
      exact ⟨[], rfl, rfl⟩
    · rintro ⟨name, rfl, hname⟩
      rw [List.map_eq_nil_iff.1 hname]
      rfl
  | cons w word ih =>
    cases cs with
    | nil =>
      constructor
      · intro h
        cases h
      · rintro ⟨name, hnil, hname⟩
        rw [(List.append_eq_nil_iff.1 hnil.symm).1] at hname
        cases hname
    | cons c cs =>
      rw [afterWord]
      constructor
      · intro h
        split at h
        · next hc =>
          obtain ⟨name, rfl, hname⟩ := ih.1 h
          exact ⟨c :: name, rfl, by rw [List.map_cons, hc, hname]⟩
        · cases h
      · rintro ⟨name, hcs, hname⟩
        cases name with
        | nil => cases hname
        | cons d name =>
          obtain ⟨rfl, rfl⟩ := List.cons_eq_cons.1 hcs
          obtain ⟨rfl, hword⟩ := List.cons_eq_cons.1 hname
          rw [if_pos rfl]
          exact ih.2 ⟨name, rfl, hword⟩

theorem afterWord_append {word name : List Char} (h : name.map foldCase = word)
    (rest : List Char) : afterWord word (name ++ rest) = some rest :=
  afterWord_eq_some_iff.2 ⟨name, rfl, h⟩

/-- Whether a text differs from a word before one of the two ends. -/
def clashes (word cs : List Char) : Bool :=
  (word.zip cs).any fun pair => foldCase pair.2 != pair.1

theorem afterWord_of_clashes {word : List Char} (h : clashes word cs = true) (rest : List Char) :
    afterWord word (cs ++ rest) = none := by
  induction word generalizing cs with
  | nil => cases h
  | cons w word ih =>
    cases cs with
    | nil => cases h
    | cons c cs =>
      rw [List.cons_append, afterWord]
      by_cases hc : foldCase c = w
      · rw [if_pos hc]
        apply ih
        simpa [clashes, hc] using h
      · rw [if_neg hc]

/-! ### Blanks are in no other class -/

theorem foldCase_of_isBlank {c : Char} (h : isBlank c = true) : foldCase c = c := by
  have hs : c ≠ 'ſ' := by
    rintro rfl
    exact absurd h (by decide)
  have hk : c ≠ '\u212A' := by
    rintro rfl
    exact absurd h (by decide)
  have hupper : ¬ (c.val ≥ 'A'.val ∧ c.val ≤ 'Z'.val) := by
    have hn := toNat_of_isBlank h
    have hA : 'A'.toNat = 65 := rfl
    have hZ : 'Z'.toNat = 90 := rfl
    rw [ge_iff_le, UInt32.le_iff_toNat_le, UInt32.le_iff_toNat_le]
    simp only [Char.toNat_val]
    omega
  rw [foldCase, if_neg hs, if_neg hk]
  exact dif_neg hupper

theorem isTokenChar_of_isBlank {c : Char} (h : isBlank c = true) : isTokenChar c = false := by
  have hsign : ∀ d ∈ ['-', '.', '_', '~', '+', '/'], (c == d) = false := by
    intro d hd
    rw [beq_eq_false_iff_ne]
    rintro rfl
    have hno : ['-', '.', '_', '~', '+', '/'].all isSolid = true := by decide
    have hc := List.all_eq_true.1 hno c hd
    rw [isSolid, h] at hc
    cases hc
  rw [List.forall_mem_cons, List.forall_mem_cons, List.forall_mem_cons, List.forall_mem_cons,
    List.forall_mem_cons, List.forall_mem_singleton] at hsign
  rw [isTokenChar, foldCase_of_isBlank h, isAlphanum_of_isBlank h]
  simp only [hsign, Bool.or_false]

theorem isHeaderValue_of_isTokenChar {c : Char} (h : isTokenChar c = true) :
    isHeaderValue c = true := by
  have hcomma : c ≠ ',' := by
    rintro rfl
    exact absurd h (by decide)
  cases hc : isBlank c with
  | true =>
    rw [isTokenChar_of_isBlank hc] at h
    cases h
  | false => simp [isHeaderValue, hc, hcomma]

/-! ### Introductions -/

/-- A word in any case and the blanks after it. -/
def Headed (word intro : List Char) : Prop :=
  ∃ name gap, intro = name ++ gap ∧ name.map foldCase = word ∧ IsGap gap

/-- The name of a secret setting and the equals sign. -/
def IsAssigned (intro : List Char) : Prop :=
  ∃ name, intro = name ++ ['='] ∧ (∀ c ∈ name, isNameChar c = true) ∧ namesSecret name = true

/-- A text that begins with a word begins with an introduction by this word. -/
theorem headed_cases (word cs : List Char) : afterWord word cs = none ∨
    ∃ intro value, cs = intro ++ value ∧ Headed word intro ∧ starts isBlank value = false := by
  cases h : afterWord word cs with
  | none => exact .inl rfl
  | some rest =>
    obtain ⟨name, rfl, hname⟩ := afterWord_eq_some_iff.1 h
    obtain ⟨gap, value, rfl, hgap, hvalue⟩ := exists_run isBlank rest
    exact .inr ⟨name ++ gap, value, by rw [List.append_assoc], ⟨name, gap, rfl, hname, hgap⟩,
      hvalue⟩

theorem Headed.length_le {word intro : List Char} (h : Headed word intro) :
    word.length ≤ intro.length := by
  obtain ⟨name, gap, rfl, rfl, -⟩ := h
  simp

/-- A longer introduction than the word ends with a blank. -/
theorem Headed.exists_blank {word intro : List Char} (h : Headed word intro)
    (hlong : word.length < intro.length) : ∃ c, isBlank c = true ∧ [c] <:+ intro := by
  obtain ⟨name, gap, rfl, rfl, hgap⟩ := h
  have hne : gap ≠ [] := by
    rintro rfl
    simp at hlong
  have hlast : [gap.getLast hne] <:+ gap := ⟨gap.dropLast, List.dropLast_concat_getLast hne⟩
  exact ⟨gap.getLast hne, hgap _ (List.getLast_mem hne), hlast.trans (List.suffix_append name gap)⟩

theorem Headed.mem {word intro : List Char} (h : Headed word intro) {c : Char} (hc : c ∈ intro) :
    foldCase c ∈ word ∨ isBlank c = true := by
  obtain ⟨name, gap, rfl, rfl, hgap⟩ := h
  rcases List.mem_append.1 hc with hc | hc
  · exact .inl (List.mem_map_of_mem hc)
  · exact .inr (hgap c hc)

/-- Behind the whole of an introduction by a word nothing but blanks belongs to another one. -/
theorem Headed.alone {word intro other value : List Char} (hintro : Headed word intro)
    (hother : Headed word other) (hvalue : starts isSolid value = true) :
    ¬ intro ++ value <:+ other := by
  intro h
  have hne := ne_nil_of_starts hvalue
  have hlength := hintro.length_le
  obtain ⟨name, gap, rfl, rfl, hgap⟩ := hother
  have hsuffix : value <:+ name ++ gap := (List.suffix_append intro value).trans h
  by_cases hlong : value.length ≤ gap.length
  · have hin : value <:+ gap :=
      List.suffix_of_suffix_length_le hsuffix (List.suffix_append name gap) hlong
    obtain ⟨c, value, rfl⟩ := List.exists_cons_of_ne_nil hne
    have hc : isBlank c = true := hgap c (hin.subset List.mem_cons_self)
    rw [starts_cons, isSolid, hc] at hvalue
    cases hvalue
  · -- The word itself would be shorter than it is.
    have hall := h.length_le
    rw [List.length_append, List.length_append] at hall
    rw [List.length_map] at hlength
    omega

theorem IsAssigned.alone {intro other value : List Char} (hintro : IsAssigned intro)
    (hother : IsAssigned other) (hne : value ≠ []) : ¬ intro ++ value <:+ other := by
  rintro ⟨before, h⟩
  obtain ⟨name, rfl, -, -⟩ := hintro
  obtain ⟨whole, rfl, hwhole, -⟩ := hother
  obtain ⟨value, c, rfl⟩ := (List.eq_nil_or_concat value).resolve_left hne
  rw [List.concat_eq_append] at h
  have hsplit : (before ++ (name ++ '=' :: value)) ++ [c] = whole ++ ['='] := by simpa using h
  have hmem : '=' ∈ whole := by
    rw [← (List.append_inj' hsplit rfl).1]
    simp
  exact absurd (hwhole '=' hmem) (by decide)

theorem IsAssigned.mem {intro : List Char} (h : IsAssigned intro) {c : Char} (hc : c ∈ intro) :
    isNameChar c = true ∨ c = '=' := by
  obtain ⟨name, rfl, hname, -⟩ := h
  rcases List.mem_append.1 hc with hc | hc
  · exact .inl (hname c hc)
  · exact .inr (List.mem_singleton.1 hc)

/-! ### The value of a header -/

/-- How much of the value of an authorization header is its scheme. -/
def schemeSize (value : List Char) : Nat :=
  max (schemeLength "bearer".toList value) (schemeLength "basic".toList value)

/-- How much of a text is the value of an authorization header, with its scheme. -/
def valueLength (value : List Char) : Nat :=
  schemeSize value + runLength isHeaderValue (value.drop (schemeSize value))

theorem schemeLength_of_none {scheme value : List Char} (h : afterWord scheme value = none) :
    schemeLength scheme value = 0 := by
  rw [schemeLength, h]

theorem schemeLength_append {scheme intro value : List Char} (h : Headed scheme intro)
    (hvalue : starts isBlank value = false) : schemeLength scheme (intro ++ value) =
      if scheme.length < intro.length ∧ starts isHeaderValue value = true then intro.length
      else 0 := by
  obtain ⟨name, gap, rfl, hname, hgap⟩ := h
  have hlength : scheme.length = name.length := by rw [← hname, List.length_map]
  have hdrop : (gap ++ value).drop gap.length = value := List.drop_left
  rw [schemeLength, List.append_assoc, afterWord_append hname]
  simp only [runLength_append_stop hgap hvalue, hdrop, hlength, List.length_append,
    Nat.lt_add_right_iff_pos]
  cases hstarts : starts isHeaderValue value with
  | false => simp [runLength_eq_zero hstarts]
  | true => simp [runLength_pos hstarts]

/-- A scheme is there only before a value. -/
theorem schemeLength_cases (scheme value : List Char) : schemeLength scheme value = 0 ∨
    starts isHeaderValue (value.drop (schemeLength scheme value)) = true := by
  rcases headed_cases scheme value with hnone | ⟨intro, rest, rfl, hintro, hrest⟩
  · exact .inl (schemeLength_of_none hnone)
  · rw [schemeLength_append hintro hrest]
    split
    · next h =>
      rw [List.drop_left]
      exact .inr h.2
    · exact .inl rfl

theorem schemeSize_cases (value : List Char) : schemeSize value = 0 ∨
    starts isHeaderValue (value.drop (schemeSize value)) = true := by
  unfold schemeSize
  rcases Nat.le_total (schemeLength "bearer".toList value)
    (schemeLength "basic".toList value) with h | h
  · rw [Nat.max_eq_right h]
    exact schemeLength_cases _ _
  · rw [Nat.max_eq_left h]
    exact schemeLength_cases _ _

theorem schemeSize_le (value : List Char) : schemeSize value ≤ value.length := by
  rcases schemeSize_cases value with h | h
  · rw [h]
    exact Nat.zero_le _
  · have hne := ne_nil_of_starts h
    rw [ne_eq, List.drop_eq_nil_iff, Nat.not_le] at hne
    exact hne.le

theorem valueLength_le (value : List Char) : valueLength value ≤ value.length := by
  have hscheme := schemeSize_le value
  have hrun := runLength_le isHeaderValue (value.drop (schemeSize value))
  rw [List.length_drop] at hrun
  unfold valueLength
  omega

theorem valueLength_pos {value : List Char} (h : starts isHeaderValue value = true) :
    0 < valueLength value := by
  unfold valueLength
  rcases schemeSize_cases value with h0 | hpos
  · rw [h0, Nat.zero_add]
    exact runLength_pos h
  · exact Nat.add_pos_right _ (runLength_pos hpos)

theorem starts_drop_valueLength (value : List Char) :
    starts isHeaderValue (value.drop (valueLength value)) = false := by
  rw [valueLength, ← List.drop_drop]
  exact starts_drop_runLength _ _

/-- No scheme begins with the mark. -/
theorem valueLength_mark (rest : List Char) :
    valueLength (mark ++ rest) = mark.length + runLength isHeaderValue rest := by
  have hbearer : schemeLength "bearer".toList (mark ++ rest) = 0 := schemeLength_of_none rfl
  have hbasic : schemeLength "basic".toList (mark ++ rest) = 0 := schemeLength_of_none rfl
  have hscheme : schemeSize (mark ++ rest) = 0 := by rw [schemeSize, hbearer, hbasic, Nat.max_self]
  have hmark : mark.all isHeaderValue = true := by decide
  rw [valueLength, hscheme, Nat.zero_add, List.drop_zero,
    runLength_append (List.all_eq_true.1 hmark)]

/-- Where no value begins there is no scheme either. -/
theorem schemeSize_of_stop {value : List Char} (hblank : starts isBlank value = false)
    (hvalue : starts isHeaderValue value = false) : schemeSize value = 0 := by
  have hnone : ∀ scheme ∈ ["bearer".toList, "basic".toList], afterWord scheme value = none := by
    cases value with
    | nil => decide
    | cons c value =>
      rw [starts_cons] at hblank hvalue
      have hc : c = ',' := by simpa [isHeaderValue, hblank] using hvalue
      subst hc
      intro scheme hscheme
      rw [List.mem_cons, List.mem_singleton] at hscheme
      rcases hscheme with rfl | rfl <;> rfl
  have hbearer := schemeLength_of_none (hnone "bearer".toList (by simp))
  have hbasic := schemeLength_of_none (hnone "basic".toList (by simp))
  rw [schemeSize, hbearer, hbasic, Nat.max_self]

/-! ### Bearer tokens -/

/-- How much of a text is a bearer token, with the equals signs at its end. -/
def tokenLength (value : List Char) : Nat :=
  runLength isTokenChar value + runLength (· == '=') (value.drop (runLength isTokenChar value))

theorem tokenLength_le (value : List Char) : tokenLength value ≤ value.length := by
  have htoken := runLength_le isTokenChar value
  have hpad := runLength_le (· == '=') (value.drop (runLength isTokenChar value))
  rw [List.length_drop] at hpad
  unfold tokenLength
  omega

theorem tokenLength_pos {value : List Char} (h : starts isTokenChar value = true) :
    0 < tokenLength value :=
  Nat.add_pos_left (runLength_pos h) _

/-! ### The patterns behind an introduction -/

theorem authorization_of_none (h : afterWord "authorization:".toList cs = none) :
    authorization cs = none := by
  rw [authorization, h]

theorem bearer_of_none (h : afterWord "bearer".toList cs = none) : bearer cs = none := by
  rw [bearer, h]

theorem authorization_append {intro value : List Char}
    (h : Headed "authorization:".toList intro) (hvalue : starts isBlank value = false) :
    authorization (intro ++ value) =
      if starts isHeaderValue value = true then
        some ⟨intro.length, intro.length + valueLength value⟩ else none := by
  obtain ⟨name, gap, rfl, hname, hgap⟩ := h
  have hlength : "authorization:".length = name.length := by
    rw [← List.length_map foldCase, hname]
    rfl
  have hdrop : (name ++ gap ++ value).drop (name.length + gap.length) = value := by
    rw [← List.length_append, List.drop_left]
  rw [authorization, List.append_assoc, afterWord_append hname]
  simp only [runLength_append_stop hgap hvalue, hlength]
  rw [← List.append_assoc, hdrop, List.length_append, ← schemeSize]
  cases hstarts : starts isHeaderValue value with
  | false =>
    have hscheme := schemeSize_of_stop hvalue hstarts
    have hrun : runLength isHeaderValue (value.drop (schemeSize value)) = 0 := by
      rw [hscheme, List.drop_zero, runLength_eq_zero hstarts]
    rw [if_pos hrun, if_neg Bool.false_ne_true]
  | true =>
    have hrun : 0 < runLength isHeaderValue (value.drop (schemeSize value)) := by
      rcases schemeSize_cases value with h0 | hpos
      · rw [h0]
        exact runLength_pos hstarts
      · exact runLength_pos hpos
    rw [if_pos rfl, if_neg hrun.ne', Nat.add_assoc (name.length + gap.length), valueLength]

theorem bearer_append {intro value : List Char} (h : Headed "bearer".toList intro)
    (hvalue : starts isBlank value = false) :
    bearer (intro ++ value) =
      if "bearer".toList.length + 1 ≤ intro.length ∧ starts isTokenChar value = true then
        some ⟨intro.length, intro.length + tokenLength value⟩ else none := by
  obtain ⟨name, gap, rfl, hname, hgap⟩ := h
  have hword : "bearer".toList.length = name.length := by rw [← hname, List.length_map]
  have hlength : "bearer".length = name.length := hword
  have hdrop : (gap ++ value).drop gap.length = value := List.drop_left
  rw [bearer, List.append_assoc, afterWord_append hname]
  simp only [runLength_append_stop hgap hvalue, hlength, ← List.drop_drop, hdrop]
  rw [List.length_append, hword]
  by_cases hgapne : gap.length = 0
  · rw [if_pos (.inl hgapne), if_neg (by omega)]
  cases hstarts : starts isTokenChar value with
  | false => rw [if_pos (.inr (runLength_eq_zero hstarts)), if_neg (by simp)]
  | true =>
    have hrun := runLength_pos hstarts
    rw [if_neg (by omega), if_pos ⟨by omega, rfl⟩, Nat.add_assoc (name.length + gap.length),
      tokenLength]

theorem assignment_append {name : List Char} (hname : ∀ c ∈ name, isNameChar c = true)
    (value : List Char) :
    assignment (name ++ '=' :: value) =
      if (namesSecret name && starts isSolid value) = true then
        some ⟨name.length + 1, name.length + 1 + runLength isSolid value⟩ else none := by
  have hrun : (name ++ '=' :: value).takeWhile isNameChar = name := by
    rw [List.takeWhile_append_of_pos hname]
    simp [show isNameChar '=' = false from by decide]
  have hstarts : (runLength isSolid value != 0) = starts isSolid value := by
    cases h : starts isSolid value with
    | false => rw [runLength_eq_zero h, bne_self_eq_false]
    | true => exact bne_iff_ne.2 (runLength_pos h).ne'
  rw [assignment, hrun, List.drop_left, ← hstarts]
  rfl

theorem assignment_of_ne {name rest : List Char} (hname : ∀ c ∈ name, isNameChar c = true)
    (hrest : starts isNameChar rest = false) (hne : rest.head? ≠ some '=') :
    assignment (name ++ rest) = none := by
  have hrun : (name ++ rest).takeWhile isNameChar = name := by
    rw [List.takeWhile_append_of_pos hname]
    cases rest with
    | nil => simp
    | cons c rest => rw [List.takeWhile_cons_of_neg (by simpa using hrest), List.append_nil]
  rw [assignment, hrun, List.drop_left]
  cases rest with
  | nil => rfl
  | cons c rest =>
    have hc : c ≠ '=' := by simpa using hne
    simp [hc]

/-! ### Patterns that read a word -/

theorem solid_of_isHeaderValue {c : Char} (h : isHeaderValue c = true) : isSolid c = true := by
  rw [isHeaderValue, Bool.and_eq_true] at h
  exact h.1

theorem solid_of_isTokenChar {c : Char} (h : isTokenChar c = true) : isSolid c = true :=
  solid_of_isHeaderValue (isHeaderValue_of_isTokenChar h)

/-- A pattern that reads a word in any case, at least `gap` blanks, and a secret behind them. -/
structure Heads (f : Pattern) (word : List Char) (gap : Nat) (opens : Char → Bool)
    (size : List Char → Nat) : Prop where
  of_none : ∀ {cs : List Char}, afterWord word cs = none → f cs = none
  append : ∀ {intro value : List Char}, Headed word intro → starts isBlank value = false →
    f (intro ++ value) =
      if word.length + gap ≤ intro.length ∧ starts opens value = true then
        some ⟨intro.length, intro.length + size value⟩ else none
  solid : ∀ c, opens c = true → isSolid c = true

theorem heads_authorization :
    Heads authorization "authorization:".toList 0 isHeaderValue valueLength where
  of_none := authorization_of_none
  append := by
    intro intro value h hvalue
    rw [authorization_append h hvalue]
    simp only [Nat.add_zero, h.length_le, true_and]
  solid := fun _ => solid_of_isHeaderValue

theorem heads_bearer : Heads bearer "bearer".toList 1 isTokenChar tokenLength where
  of_none := bearer_of_none
  append := bearer_append
  solid := fun _ => solid_of_isTokenChar

theorem Heads.eq_some_iff {word : List Char} {gap : Nat} {opens : Char → Bool}
    {size : List Char → Nat} (h : Heads f word gap opens size) {hit : Hit} :
    f cs = some hit ↔ ∃ intro value, cs = intro ++ value ∧
      (Headed word intro ∧ word.length + gap ≤ intro.length) ∧ starts opens value = true ∧
        hit = ⟨intro.length, intro.length + size value⟩ := by
  constructor
  · intro hsome
    rcases headed_cases word cs with hnone | ⟨intro, value, rfl, hintro, hvalue⟩
    · rw [h.of_none hnone] at hsome
      cases hsome
    · rw [h.append hintro hvalue] at hsome
      split at hsome
      · next hstarts =>
        cases hsome
        exact ⟨intro, value, rfl, ⟨hintro, hstarts.1⟩, hstarts.2, rfl⟩
      · cases hsome
  · rintro ⟨intro, value, rfl, ⟨hintro, hlong⟩, hstarts, rfl⟩
    have hvalue := starts_isBlank (starts_mono h.solid hstarts)
    rw [h.append hintro hvalue, if_pos ⟨hlong, hstarts⟩]

/-! ### Readings -/

/-- A pattern that reads an introduction, which stays, and a secret behind it. -/
structure Reading (pattern : Pattern) where
  /-- What introduces a secret. -/
  IsIntro : List Char → Prop
  /-- What a secret begins with. -/
  opens : Char → Bool
  /-- The length of the secret that a text begins with. -/
  size : List Char → Nat
  eq_some_iff : ∀ {cs : List Char} {hit : Hit}, pattern cs = some hit ↔
    ∃ intro value, cs = intro ++ value ∧ IsIntro intro ∧ starts opens value = true ∧
      hit = ⟨intro.length, intro.length + size value⟩
  size_pos : ∀ {value : List Char}, starts opens value = true → 0 < size value
  size_le : ∀ value : List Char, size value ≤ value.length
  intro_ne_nil : ∀ {intro : List Char}, IsIntro intro → intro ≠ []
  bracket_notMem : ∀ {intro : List Char}, IsIntro intro → '[' ∉ intro
  /-- An introduction does not end with another one and the beginning of its secret. -/
  alone : ∀ {intro other value : List Char}, IsIntro intro → IsIntro other →
    starts opens value = true → ¬ intro ++ value <:+ other
  /-- There is no hit inside a mark. -/
  mark_drop : ∀ j < mark.length, ∀ rest : List Char, pattern (mark.drop j ++ rest) = none
  /-- A mark that is read as a secret is one, unless the secret goes on behind it. -/
  size_mark : opens '[' = true → ∀ rest : List Char,
    (size (mark ++ rest) = mark.length ↔ starts opens rest = false)
  /-- A secret that could begin with a mark ends where none begins. -/
  starts_drop_size : opens '[' = true → ∀ value : List Char,
    starts opens (value.drop (size value)) = false

theorem length_add_runLength {n : Nat} {rest : List Char} :
    n + runLength p rest = n ↔ starts p rest = false := by
  cases h : starts p rest with
  | false => simp [runLength_eq_zero h]
  | true =>
    have hpos := runLength_pos h
    simp
    omega

theorem Headed.ne_nil {word intro : List Char} (h : Headed word intro) (hword : word ≠ []) :
    intro ≠ [] := by
  rintro rfl
  exact hword (List.length_eq_zero_iff.1 (Nat.le_zero.1 h.length_le))

theorem Headed.bracket_notMem {word intro : List Char} (h : Headed word intro)
    (hword : '[' ∉ word) : '[' ∉ intro := by
  intro hmem
  rcases h.mem hmem with hfold | hblank
  · exact hword hfold
  · exact absurd hblank (by decide)

/-- The reading of a pattern that reads a word. -/
def Heads.reading {word : List Char} {gap : Nat} {opens : Char → Bool} {size : List Char → Nat}
    (h : Heads f word gap opens size) (hword : word ≠ []) (hbracket : '[' ∉ word)
    (hclash : ∀ j < mark.length, clashes word (mark.drop j) = true)
    (hpos : ∀ {value : List Char}, starts opens value = true → 0 < size value)
    (hle : ∀ value : List Char, size value ≤ value.length)
    (hmark : opens '[' = true → ∀ rest : List Char,
      (size (mark ++ rest) = mark.length ↔ starts opens rest = false))
    (hends : opens '[' = true → ∀ value : List Char,
      starts opens (value.drop (size value)) = false) : Reading f where
  IsIntro intro := Headed word intro ∧ word.length + gap ≤ intro.length
  opens := opens
  size := size
  eq_some_iff := h.eq_some_iff
  size_pos := hpos
  size_le := hle
  intro_ne_nil := fun hintro => hintro.1.ne_nil hword
  bracket_notMem := fun hintro => hintro.1.bracket_notMem hbracket
  alone := fun hintro hother hvalue => hintro.1.alone hother.1 (starts_mono h.solid hvalue)
  mark_drop := fun j hj rest => h.of_none (afterWord_of_clashes (hclash j hj) rest)
  size_mark := hmark
  starts_drop_size := hends

/-- How authorization headers are read. -/
def authorizationReading : Reading authorization :=
  heads_authorization.reading (by decide) (by decide) (by decide) valueLength_pos valueLength_le
    (fun _ rest => by rw [valueLength_mark, length_add_runLength])
    (fun _ => starts_drop_valueLength)

/-- How bearer tokens are read. No token begins with a mark. -/
def bearerReading : Reading bearer :=
  heads_bearer.reading (by decide) (by decide) (by decide) tokenLength_pos tokenLength_le
    (fun h => absurd h (by decide)) (fun h => absurd h (by decide))

/-- How assignments are read. -/
def assignmentReading : Reading assignment where
  IsIntro := IsAssigned
  opens := isSolid
  size := runLength isSolid
  eq_some_iff := by
    intro cs hit
    constructor
    · intro h
      obtain ⟨name, rest, rfl, hname, hrest⟩ := exists_run isNameChar cs
      by_cases heq : rest.head? = some '='
      · obtain ⟨value, rfl⟩ := List.head?_eq_some_iff.1 heq
        rw [assignment_append hname] at h
        split at h
        · next hsecret =>
          rw [Bool.and_eq_true] at hsecret
          cases h
          refine ⟨name ++ ['='], value, by simp, ⟨name, rfl, hname, hsecret.1⟩, hsecret.2, ?_⟩
          simp
        · cases h
      · rw [assignment_of_ne hname hrest heq] at h
        cases h
    · rintro ⟨intro, value, rfl, ⟨name, rfl, hname, hsecret⟩, hstarts, rfl⟩
      rw [List.append_assoc, List.singleton_append, assignment_append hname, hsecret, hstarts,
        List.length_append, List.length_singleton]
      rfl
  size_pos := runLength_pos
  size_le := runLength_le isSolid
  intro_ne_nil := by
    rintro intro ⟨name, rfl, -, -⟩
    simp
  bracket_notMem := by
    intro intro h hmem
    rcases h.mem hmem with hname | heq
    · exact absurd hname (by decide)
    · exact absurd heq (by decide)
  alone := fun hintro hother hvalue => hintro.alone hother (ne_nil_of_starts hvalue)
  mark_drop := by
    intro j hj rest
    obtain ⟨name, tail, hsplit, hname, htail⟩ := exists_run isNameChar (mark.drop j)
    have hlast : ∀ j < mark.length, ']' ∈ mark.drop j := by decide
    have hbracket : ']' ∈ name ++ tail := hsplit ▸ hlast j hj
    cases tail with
    | nil =>
      rw [List.append_nil] at hbracket
      exact absurd (hname ']' hbracket) (by decide)
    | cons c tail =>
      have hmem : c ∈ mark := (List.drop_suffix j mark).subset (by simp [hsplit])
      have hc : c ≠ '=' := ne_of_mem_of_not_mem hmem (by decide)
      have hne : (c :: tail ++ rest).head? ≠ some '=' := by simpa using hc
      rw [hsplit, List.append_assoc]
      exact assignment_of_ne hname htail hne
  size_mark := fun _ rest => by
    have hmark : mark.all isSolid = true := by decide
    rw [runLength_append (List.all_eq_true.1 hmark), length_add_runLength]
  starts_drop_size := fun _ => starts_drop_runLength isSolid

/-! ### Bare keys -/

theorem bareKey_append {run rest : List Char} (hrun : ∀ c ∈ run, isKeyChar c = true)
    (hrest : starts isKeyChar rest = false) :
    bareKey ("sk-".toList ++ (run ++ rest)) =
      if run.length < 6 then none else some ⟨0, 3 + run.length⟩ := by
  have hlength := runLength_append_stop hrun hrest
  simp only [← hlength]
  rfl

/-- A bare key is hit where it begins and as far as its characters go. -/
theorem bareKey_eq_some_iff {hit : Hit} : bareKey cs = some hit ↔
    ∃ run rest, cs = "sk-".toList ++ (run ++ rest) ∧ (∀ c ∈ run, isKeyChar c = true) ∧
      starts isKeyChar rest = false ∧ 6 ≤ run.length ∧ hit = ⟨0, 3 + run.length⟩ := by
  constructor
  · intro h
    have hintro : ∃ after, cs = "sk-".toList ++ after := by
      unfold bareKey at h
      split at h
      · next after => exact ⟨after, rfl⟩
      · cases h
    obtain ⟨after, rfl⟩ := hintro
    obtain ⟨run, rest, rfl, hrun, hrest⟩ := exists_run isKeyChar after
    rw [bareKey_append hrun hrest] at h
    split at h
    · cases h
    · next hlong =>
      cases h
      exact ⟨run, rest, rfl, hrun, hrest, Nat.not_lt.1 hlong, rfl⟩
  · rintro ⟨run, rest, rfl, hrun, hrest, hlong, rfl⟩
    rw [bareKey_append hrun hrest, if_neg (Nat.not_lt.2 hlong)]

theorem bareKey_mark_drop (j : Nat) (hj : j < mark.length) (rest : List Char) :
    bareKey (mark.drop j ++ rest) = none := by
  have hhead : ∀ j < mark.length, (mark.drop j).head? ≠ some 's' ∧ mark.drop j ≠ [] := by decide
  cases h : bareKey (mark.drop j ++ rest) with
  | none => rfl
  | some hit =>
    obtain ⟨run, after, hcs, -⟩ := bareKey_eq_some_iff.1 h
    have hs : (mark.drop j ++ rest).head? = some 's' := by rw [hcs]; rfl
    obtain ⟨hne, hnil⟩ := hhead j hj
    obtain ⟨c, tail, hsplit⟩ := List.exists_cons_of_ne_nil hnil
    rw [hsplit] at hs hne
    exact absurd hs hne

end McpConsole.Text.Redaction
