import Mathlib.Algebra.Order.Ring.Nat
import Mathlib.Data.List.Basic
import McpConsole.Text.Decimal

/-!
# Numbers that were written are read again

The digits of a number, with zeros before them, are read as the number (`read?_padded`), whatever
follows, as long as the reader stops where the digits do: because it takes no more of them, or because
no digit follows. What is read has no more digits than the reader takes (`lt_of_read?`).
-/

namespace McpConsole.Text.Decimal

/-! ### What is written -/

theorem value_digits (n : Nat) : value (digits n) = n :=
  Nat.ofDigitChars_toDigits (by decide) (by decide)

theorem value_append (cs ds : List Char) : value (cs ++ ds) = valueFrom (value cs) ds := by
  rw [value, valueFrom, List.foldl_append]
  rfl

/-- Zeros in front do not count. -/
theorem value_padded (width n : Nat) : value (padded width n) = n := by
  have hzeros : ∀ k, value (List.replicate k '0') = 0 := by
    intro k
    induction k with
    | zero => rfl
    | succ k ih => rw [List.replicate_succ', value_append, ih]; rfl
  rw [padded, value_append, hzeros]
  exact value_digits n

theorem isDigit_of_mem_padded {width n : Nat} {c : Char} (h : c ∈ padded width n) :
    c.isDigit = true := by
  rcases List.mem_append.1 h with h | h
  · rw [List.eq_of_mem_replicate h]
    rfl
  · exact Nat.isDigit_of_mem_toDigits (by decide) (by decide) h

theorem padded_ne_nil (width n : Nat) : padded width n ≠ [] :=
  List.append_ne_nil_of_right_ne_nil _ Nat.toDigits_ne_nil

theorem isDigit_of_head?_padded {width n : Nat} {rest : List Char} {c : Char}
    (h : (padded width n ++ rest).head? = some c) : c.isDigit = true := by
  rw [List.head?_append_of_ne_nil _ (padded_ne_nil width n)] at h
  exact isDigit_of_mem_padded (List.mem_of_mem_head? h)

theorem le_length_padded (width n : Nat) : width ≤ (padded width n).length := by
  simp only [padded, List.length_append, List.length_replicate]
  omega

theorem length_padded {width n : Nat} (hwidth : 0 < width) (h : n < 10 ^ width) :
    (padded width n).length = width := by
  have hle : (digits n).length ≤ width := (Nat.length_toDigits_le_iff (by decide) hwidth).2 h
  simp only [padded, List.length_append, List.length_replicate]
  omega

/-! ### What is read -/

/-- A text that does not begin with a digit. -/
def EndsDigits (cs : List Char) : Prop :=
  ∀ c, cs.head? = some c → c.isDigit = false

theorem takeWhile_isDigit_append {run rest : List Char} (hrun : ∀ c ∈ run, c.isDigit = true)
    (hrest : EndsDigits rest) : (run ++ rest).takeWhile Char.isDigit = run := by
  rw [List.takeWhile_append_of_pos hrun]
  cases rest with
  | nil => simp
  | cons c rest => simp [hrest c rfl]

/-- Digits are read as their number, if they are neither too few nor too many. -/
theorem read?_append {least most : Nat} {run rest : List Char}
    (hrun : ∀ c ∈ run, c.isDigit = true) (hleast : least ≤ run.length) (hmost : run.length ≤ most)
    (hstops : run.length = most ∨ EndsDigits rest) :
    read? least most (run ++ rest) = some (value run, rest) := by
  have htaken : ((run ++ rest).take most).takeWhile Char.isDigit = run := by
    rw [List.take_append, List.take_of_length_le hmost]
    refine takeWhile_isDigit_append hrun ?_
    intro c hc
    rcases hstops with heq | hrest
    · simp [heq] at hc
    · rw [List.head?_take] at hc
      split at hc
      · cases hc
      · exact hrest c hc
  rw [read?, htaken, if_neg (Nat.not_lt.2 hleast), List.drop_left]

/-- **A number that was written is read again.** -/
theorem read?_padded {least most width n : Nat} {rest : List Char}
    (hleast : least ≤ width) (hmost : (padded width n).length ≤ most)
    (hstops : (padded width n).length = most ∨ EndsDigits rest) :
    read? least most (padded width n ++ rest) = some (n, rest) := by
  rw [read?_append (fun c => isDigit_of_mem_padded) (hleast.trans (le_length_padded width n)) hmost
    hstops, value_padded]

/-- A number that has no more digits than it is padded to is read from just these. -/
theorem read?_padded_of_lt {least width n : Nat} (hleast : least ≤ width) (hwidth : 0 < width)
    (h : n < 10 ^ width) (rest : List Char) :
    read? least width (padded width n ++ rest) = some (n, rest) := by
  have hlength := length_padded hwidth h
  exact read?_padded hleast hlength.le (.inl hlength)

theorem digitValue_lt {c : Char} (h : c.isDigit = true) : digitValue c < 10 := by
  obtain ⟨-, hle⟩ := Char.isDigit_iff_toNat.1 h
  have hzero : '0'.toNat = 48 := rfl
  have hnine : '9'.toNat = 57 := rfl
  rw [digitValue]
  omega

theorem valueFrom_lt {cs : List Char} (h : ∀ c ∈ cs, c.isDigit = true) (n : Nat) :
    valueFrom n cs < (n + 1) * 10 ^ cs.length := by
  induction cs generalizing n with
  | nil => simp [valueFrom]
  | cons c cs ih =>
    have hc := digitValue_lt (h c List.mem_cons_self)
    have hrest := ih (fun d hd => h d (List.mem_cons_of_mem c hd)) (10 * n + digitValue c)
    calc valueFrom n (c :: cs) = valueFrom (10 * n + digitValue c) cs := rfl
      _ < (10 * n + digitValue c + 1) * 10 ^ cs.length := hrest
      _ ≤ ((n + 1) * 10) * 10 ^ cs.length := Nat.mul_le_mul_right _ (by omega)
      _ = (n + 1) * 10 ^ (c :: cs).length := by
        rw [List.length_cons, Nat.pow_succ', Nat.mul_assoc]

theorem value_lt {cs : List Char} (h : ∀ c ∈ cs, c.isDigit = true) : value cs < 10 ^ cs.length := by
  have hlt := valueFrom_lt h 0
  rwa [Nat.zero_add, Nat.one_mul] at hlt

/-- A number that is read has no more digits than are taken. -/
theorem lt_of_read? {least most n : Nat} {cs rest : List Char}
    (h : read? least most cs = some (n, rest)) : n < 10 ^ most := by
  unfold read? at h
  dsimp only at h
  split at h
  · cases h
  · obtain ⟨rfl, -⟩ := Prod.mk.inj (Option.some.inj h)
    have hdigits : ∀ c ∈ (cs.take most).takeWhile Char.isDigit, c.isDigit = true :=
      List.all_eq_true.1 List.all_takeWhile
    have hlength : ((cs.take most).takeWhile Char.isDigit).length ≤ most :=
      (List.takeWhile_prefix _).length_le.trans (List.length_take_le most cs)
    exact (value_lt hdigits).trans_le (Nat.pow_le_pow_right (by decide) hlength)

end McpConsole.Text.Decimal
