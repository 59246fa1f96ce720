import McpConsole.Text.Width
import Mathlib.Order.Basic
import Mathlib.Tactic.SplitIfs

/-!
# Widths of texts that are put together

The columns of a text are counted in two ways: every character taken alone (`Width.sum`), which is what
a text is cut by, and the text taken as a whole (`Width.columns`), which is what a terminal shows. Both
count one column for a blank, and nothing before a blank changes what comes after it: `IsMeasure` is
what they have in common, and `IsMeasure.append_blanks` all that filling up a text comes to.

In a text taken as a whole a character can take back a column of the letter that it joins. What can be
taken back is the `Start.reserve` of a text, which is never more than the text takes
(`reserve_measure`), so no text takes less than nothing (`measure_nonneg`).
-/

namespace McpConsole.Text.Width

/-! ### Characters taken alone -/

@[simp] theorem sum_nil : sum [] = 0 := rfl

@[simp] theorem sum_cons (c : Char) (cs : List Char) : sum (c :: cs) = ofChar c + sum cs := rfl

@[simp] theorem sum_append (front cs : List Char) : sum (front ++ cs) = sum front + sum cs := by
  induction front with
  | nil => simp
  | cons c front ih => simp [ih, Nat.add_assoc]

theorem ofChar_blank : ofChar ' ' = 1 := by decide

theorem ofChar_ellipsis : ofChar '…' = 1 := by decide +kernel

/-! ### What joins takes back -/

/-- The columns of a text that a character before it can take back. -/
def Start.reserve : Start → Int
  | .joining .khmer _ | .joining .joinedConsonant _ | .joinedIndicator | .joinedOdd => 1
  | _ => 0

theorem Start.reserve_nonneg (start : Start) : 0 ≤ start.reserve := by
  unfold Start.reserve
  split <;> decide

/-- A joiner in front of a letter changes nothing in its reserve. -/
theorem Start.reserve_joining (letter : Letter) (joiner joiner' : Bool) :
    (Start.joining letter joiner).reserve = (Start.joining letter joiner').reserve := by
  cases letter <;> rfl

/-- A ligature takes back no more than its letter has in reserve, and leaves what it has in reserve
itself. -/
theorem reserve_ligature : ∀ g ∈ ligatures,
    (g.next.elim Start.plain fun next => .joining next false).reserve ≤
      (Start.joining g.letter false).reserve + g.width := by
  decide

theorem reserve_alone (c : Char) : (alone c).2.reserve ≤ (alone c).1 := by
  unfold alone
  cases letter? c.toNat with
  | some letter =>
    show (Start.joining letter false).reserve ≤ 1
    cases letter <;> decide
  | none =>
    have hstart : (if isModifier c.toNat then Start.modifier
        else if isIndicator c.toNat then .indicator
        else if inRanges emojiRanges c.toNat then .emoji
        else .plain).reserve = 0 := by
      split_ifs <;> rfl
    exact hstart.trans_le (Int.natCast_nonneg _)

theorem reserve_joiner? {n : Nat} {own : Int × Start} (h : joiner? n = some own) :
    own.2.reserve ≤ own.1 := by
  unfold joiner? at h
  split_ifs at h
  cases h
  decide

/-- A character that joins takes back no more than the text has in reserve. -/
theorem Start.reserve_join? {c : Char} {start : Start} {own : Int × Start}
    (h : start.join? c = some own) : own.2.reserve ≤ start.reserve + own.1 := by
  have hreserve := start.reserve_nonneg
  have hjoiner : joiner? c.toNat = some own → own.2.reserve ≤ start.reserve + own.1 := fun h =>
    Int.le_trans (reserve_joiner? h) (Int.le_add_of_nonneg_left hreserve)
  cases start with
  | joining letter joiner =>
    rw [Start.join?] at h
    split_ifs at h with hover
    · cases h
      rw [Int.add_zero]
      exact Int.le_of_eq (Start.reserve_joining letter _ _)
    · obtain ⟨g, hg, rfl⟩ := Option.map_eq_some_iff.1 h
      have hletter : g.letter = letter := by
        have hp := List.find?_some hg
        simp only [Bool.and_eq_true, decide_eq_true_eq] at hp
        exact hp.1.1
      rw [Start.reserve_joining letter joiner false, ← hletter]
      exact reserve_ligature g (List.mem_of_find?_eq_some hg)
  | plain | lineFeed | keycap => cases h
  | emoji => exact hjoiner h
  | modifier | indicators | joinedEven | joinedOdd =>
    rw [Start.join?] at h
    split_ifs at h
    · cases h
      decide
    · exact hjoiner h
  | indicator | joinedIndicator | joined =>
    rw [Start.join?] at h
    split_ifs at h <;> cases h <;> decide
  | tags letters digits =>
    rw [Start.join?] at h
    split_ifs at h <;> cases h <;> exact Int.le_refl 0

/-! ### A text taken as a whole -/

theorem measure_cons (c : Char) (cs : List Char) :
    measure (c :: cs) =
      ((step c (measure cs).2).1 + (measure cs).1, (step c (measure cs).2).2) := rfl

theorem passed_cases (ahead : Ahead) : ahead.passed = ahead.start ∨ ahead.passed = .plain := by
  obtain ⟨selector, start⟩ := ahead
  cases selector with
  | none => exact .inl rfl
  | some selector =>
    cases start with
    | joining letter joiner => exact .inl rfl
    | _ => exact .inr rfl

theorem behind_cases (selector : Selector) (start : Start) :
    start.behind selector = start ∨ start.behind selector = .plain := by
  cases start with
  | joining letter joiner =>
    cases letter with
    | vowelE | vowelAi => exact .inr rfl
    | _ => exact .inl rfl
  | joined | keycap => cases selector <;> simp [Start.behind]
  | _ => exact .inr rfl

/-- What is passed over or kept behind a selector has nothing more in reserve. -/
theorem Start.reserve_le_of_cases {start kept : Start} (h : kept = start ∨ kept = .plain) :
    kept.reserve ≤ start.reserve := by
  rcases h with rfl | rfl
  · exact Int.le_refl _
  · exact start.reserve_nonneg

theorem reserve_own (c : Char) (start : Start) :
    ((start.join? c).getD (alone c)).2.reserve ≤
      start.reserve + ((start.join? c).getD (alone c)).1 := by
  cases h : start.join? c with
  | none => exact Int.le_trans (reserve_alone c) (Int.le_add_of_nonneg_left start.reserve_nonneg)
  | some own => exact Start.reserve_join? h

/-- No character takes back more than the text has in reserve. -/
theorem reserve_step (c : Char) (ahead : Ahead) :
    (step c ahead).2.start.reserve ≤ ahead.start.reserve + (step c ahead).1 := by
  have hreserve := ahead.start.reserve_nonneg
  have hpassed := Start.reserve_le_of_cases (passed_cases ahead)
  have hspare : ∀ {n : Int} {start : Start}, start.reserve = 0 → 0 ≤ n →
      start.reserve ≤ ahead.start.reserve + n := by
    intro n start hzero hn
    omega
  unfold step
  by_cases hemoji : ahead.selector = some .emoji ∧ takesEmoji c.toNat
  · rw [if_pos hemoji]
    exact hspare rfl (by dsimp only; split_ifs <;> decide)
  rw [if_neg hemoji]
  by_cases hplain : c.toNat ≤ 0xA0
  · rw [if_pos hplain]
    exact hspare (by dsimp only; split_ifs <;> rfl) (by dsimp only; split_ifs <;> decide)
  rw [if_neg hplain]
  cases selector? c.toNat with
  | some selector =>
    have hbehind := Start.reserve_le_of_cases (behind_cases selector ahead.passed)
    show (ahead.passed.behind selector).reserve ≤ ahead.start.reserve + 0
    omega
  | none =>
    dsimp only
    split_ifs
    · exact hspare rfl (by decide)
    · exact hspare rfl (by decide)
    · have hown := reserve_own c ahead.passed
      dsimp only
      omega

theorem reserve_measure (cs : List Char) : (measure cs).2.start.reserve ≤ (measure cs).1 := by
  induction cs with
  | nil => exact Int.le_refl 0
  | cons c cs ih =>
    have hstep := reserve_step c (measure cs).2
    rw [measure_cons]
    dsimp only
    omega

/-- No text takes less than no column. -/
theorem measure_nonneg (cs : List Char) : 0 ≤ (measure cs).1 :=
  Int.le_trans (Start.reserve_nonneg _) (reserve_measure cs)

-- The first sign takes back the column of the letter that it puts below another one.
example : columns ['\u17D2', '\u1780'] = 0 := by decide +kernel

/-- A blank takes one column whatever comes after it, and is nothing to what comes before it. -/
theorem step_blank (ahead : Ahead) : step ' ' ahead = (1, .plain) := by
  have hemoji : ¬ takesEmoji ' '.toNat := by decide +kernel
  have hreturn : ' ' ≠ '\r' := by decide
  rw [step, if_neg fun h => hemoji h.2, if_pos (by decide), if_neg fun h => hreturn h.1]
  rfl

/-- Before a text that is nothing to what comes before it, a text takes what it takes alone. -/
theorem measure_append {cs : List Char} (h : (measure cs).2 = .plain) (front : List Char) :
    measure (front ++ cs) = ((measure front).1 + (measure cs).1, (measure front).2) := by
  induction front with
  | nil => exact Prod.ext (Int.zero_add _).symm h
  | cons c front ih =>
    rw [List.cons_append, measure_cons, measure_cons, ih, Int.add_assoc]

/-! ### What both measures have in common -/

/-- A way to count the columns of a text that parts the text at its blanks. -/
structure IsMeasure (m : List Char → Nat) : Prop where
  nil : m [] = 0
  blank : ∀ front rest, m (front ++ ' ' :: rest) = m front + 1 + m rest

theorem isMeasure_sum : IsMeasure sum where
  nil := rfl
  blank front rest := by
    rw [sum_append, sum_cons, ofChar_blank, Nat.add_assoc]

theorem isMeasure_columns : IsMeasure columns where
  nil := rfl
  blank front rest := by
    have hblank : measure (' ' :: rest) = (1 + (measure rest).1, .plain) := by
      rw [measure_cons, step_blank]
    have hfront := measure_nonneg front
    have hrest := measure_nonneg rest
    rw [columns, measure_append (by rw [hblank]), hblank, columns, columns]
    omega

theorem isMeasure_of_mem {m : List Char → Nat} (h : m ∈ [sum, columns]) : IsMeasure m := by
  rcases List.mem_cons.1 h with rfl | h
  · exact isMeasure_sum
  · rw [List.mem_singleton.1 h]
    exact isMeasure_columns

theorem IsMeasure.blanks {m : List Char → Nat} (h : IsMeasure m) (n : Nat) (rest : List Char) :
    m (List.replicate n ' ' ++ rest) = n + m rest := by
  induction n with
  | zero => simp
  | succ n ih =>
    have hstep := h.blank [] (List.replicate n ' ' ++ rest)
    rw [h.nil, List.nil_append] at hstep
    rw [List.replicate_succ, List.cons_append, hstep, ih]
    omega

/-- Blanks between two texts take a column each. -/
theorem IsMeasure.append_blanks {m : List Char → Nat} (h : IsMeasure m) (front : List Char) (n : Nat)
    (rest : List Char) :
    m (front ++ (List.replicate (n + 1) ' ' ++ rest)) = m front + (n + 1) + m rest := by
  rw [List.replicate_succ, List.cons_append, h.blank, h.blanks]
  omega

end McpConsole.Text.Width
