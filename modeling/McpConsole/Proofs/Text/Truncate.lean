import McpConsole.Proofs.Text.Width
import McpConsole.Text.Truncate

/-!
# What is left of a text that is cut

`fitting budget cs` is the longest beginning of a text that takes at most `budget` columns:
`prefix_fitting` says that it goes on with every beginning that fits, and `fitting_next` that the
character after it would take too much. A text that is cut to a width keeps what fits before an
ellipsis, which takes one column (`truncate_of_lt`), so it fits, and cutting it again changes nothing
(`truncate_truncate`). `truncated_fits` puts this together.
-/

namespace McpConsole.Text

/-! ### The beginning that fits -/

section Fitting

variable {cs front : List Char}

theorem sum_fitting_le (budget : Nat) (cs : List Char) :
    Width.sum (fitting budget cs) ≤ budget := by
  induction cs generalizing budget with
  | nil => simp [fitting]
  | cons c cs ih =>
    unfold fitting
    split
    · have hrest := ih (budget - Width.ofChar c)
      rw [Width.sum_cons]
      omega
    · exact Nat.zero_le budget

theorem fitting_isPrefix (budget : Nat) (cs : List Char) : fitting budget cs <+: cs := by
  induction cs generalizing budget with
  | nil => exact List.prefix_rfl
  | cons c cs ih =>
    unfold fitting
    split
    · exact List.cons_prefix_cons.2 ⟨rfl, ih _⟩
    · exact List.nil_prefix

/-- **The most is kept**: what fits goes on with every beginning that takes no more. -/
theorem prefix_fitting {budget : Nat} (hfront : front <+: cs) (hsum : Width.sum front ≤ budget) :
    front <+: fitting budget cs := by
  induction cs generalizing front budget with
  | nil => rwa [fitting]
  | cons c cs ih =>
    cases front with
    | nil => exact List.nil_prefix
    | cons d front =>
      obtain ⟨rfl, hrest⟩ := List.cons_prefix_cons.1 hfront
      rw [Width.sum_cons] at hsum
      rw [fitting, if_pos (by omega)]
      exact List.cons_prefix_cons.2 ⟨rfl, ih hrest (by omega)⟩

/-- The character after what fits would take too much. -/
theorem fitting_next {budget : Nat} (h : budget < Width.sum cs) :
    ∃ next rest, cs = fitting budget cs ++ next :: rest ∧
      budget < Width.sum (fitting budget cs ++ [next]) := by
  obtain ⟨rest, hrest⟩ := fitting_isPrefix budget cs
  have hle := sum_fitting_le budget cs
  cases rest with
  | nil =>
    rw [List.append_nil] at hrest
    rw [hrest] at hle
    omega
  | cons next rest =>
    refine ⟨next, rest, hrest.symm, Nat.lt_of_not_le fun hfits => ?_⟩
    have hlong : fitting budget cs ++ [next] <+: cs := ⟨rest, by simpa using hrest⟩
    have hlength := (prefix_fitting hlong hfits).length_le
    rw [List.length_append, List.length_singleton] at hlength
    omega

end Fitting

/-! ### The text that is cut -/

section Truncate

variable {width : Nat} {cs : List Char}

theorem truncate_of_le (hwidth : 0 < width) (h : Width.sum cs ≤ width) :
    truncate width cs = cs := by
  rw [truncate, if_neg (by omega), if_pos h]

theorem truncate_of_lt (hwidth : 0 < width) (h : width < Width.sum cs) :
    truncate width cs = fitting (width - 1) cs ++ ['…'] := by
  rw [truncate, if_neg (by omega), if_neg (by omega)]

theorem sum_truncate_le (width : Nat) (cs : List Char) : Width.sum (truncate width cs) ≤ width := by
  rcases Nat.eq_zero_or_pos width with rfl | hwidth
  · exact Nat.le_refl 0
  rcases Nat.lt_or_ge width (Width.sum cs) with hlt | hle
  · have hfits := sum_fitting_le (width - 1) cs
    rw [truncate_of_lt hwidth hlt, Width.sum_append, Width.sum_cons, Width.ofChar_ellipsis,
      Width.sum_nil]
    omega
  · rwa [truncate_of_le hwidth hle]

theorem truncate_eq_self_iff :
    truncate width cs = cs ↔ (0 < width ∧ Width.sum cs ≤ width) ∨ cs = [] := by
  constructor
  · intro h
    have hle := sum_truncate_le width cs
    rw [h] at hle
    rcases Nat.eq_zero_or_pos width with rfl | hwidth
    · exact .inr h.symm
    · exact .inl ⟨hwidth, hle⟩
  · rintro (⟨hwidth, hle⟩ | rfl)
    · exact truncate_of_le hwidth hle
    · rcases Nat.eq_zero_or_pos width with rfl | hwidth
      · rfl
      · exact truncate_of_le hwidth (Nat.zero_le width)

/-- A text that was cut is left as it is by a width that is no smaller. -/
theorem truncate_truncate {wider : Nat} (h : width ≤ wider) :
    truncate wider (truncate width cs) = truncate width cs := by
  rw [truncate_eq_self_iff]
  rcases Nat.eq_zero_or_pos width with rfl | hwidth
  · exact .inr rfl
  · exact .inl ⟨Nat.lt_of_lt_of_le hwidth h, Nat.le_trans (sum_truncate_le width cs) h⟩

end Truncate

/-- A beginning of a text that fits into a number of columns and could not go on. -/
structure IsCut (budget : Nat) (cs kept : List Char) : Prop where
  fits : Width.sum kept ≤ budget
  next : ∃ next rest, cs = kept ++ next :: rest ∧ budget < Width.sum (kept ++ [next])
  longest : ∀ front, front <+: cs → Width.sum front ≤ budget → front <+: kept

theorem isCut_fitting {budget : Nat} {cs : List Char} (h : budget < Width.sum cs) :
    IsCut budget cs (fitting budget cs) :=
  ⟨sum_fitting_le budget cs, fitting_next h, fun _ => prefix_fitting⟩

/-- **A string that is cut** to a width takes no more. It is the string itself exactly if there is a
column at all and the string takes no more than the width, or if the string is empty. A string that
takes more loses its end to an ellipsis, and keeps the most that leaves room for it. A width that is no
smaller cuts nothing again. -/
theorem truncated_fits (width : Nat) (s : String) :
    Width.sum (truncated width s).toList ≤ width ∧
      (truncated width s = s ↔ (0 < width ∧ Width.sum s.toList ≤ width) ∨ s = "") ∧
      (0 < width → width < Width.sum s.toList →
        ∃ kept, IsCut (width - 1) s.toList kept ∧
          (truncated width s).toList = kept ++ ['…']) ∧
      ∀ wider, width ≤ wider → truncated wider (truncated width s) = truncated width s := by
  have htext : (truncated width s).toList = truncate width s.toList := String.toList_ofList
  refine ⟨?_, ?_, ?_, ?_⟩
  · rw [htext]
    exact sum_truncate_le width s.toList
  · rw [← String.toList_inj, htext, truncate_eq_self_iff, String.toList_eq_nil_iff]
  · intro hwidth hlt
    rw [htext, truncate_of_lt hwidth hlt]
    exact ⟨_, isCut_fitting (by omega), rfl⟩
  · intro wider h
    rw [truncated, htext, truncate_truncate h, truncated]

/-- A wide character stands where one column is left before the ellipsis. -/
theorem truncated_fits_wide :
    Width.sum "日本語".toList = 6 ∧ truncated 4 "日本語" = "日…" ∧
      IsCut 3 "日本語".toList ['日'] ∧ truncated 5 "日…" = "日…" := by
  have hsum : Width.sum "日本語".toList = 6 := by decide +kernel
  have hcut : truncated 4 "日本語" = "日…" := by decide +kernel
  obtain ⟨-, -, hkept, hwider⟩ := truncated_fits 4 "日本語"
  obtain ⟨kept, hiscut, htext⟩ := hkept (by decide) (by rw [hsum]; decide)
  have hwider := hwider 5 (by decide)
  rw [hcut] at htext hwider
  obtain rfl : ['日'] = kept := List.append_cancel_right htext
  exact ⟨hsum, hcut, hiscut, hwider⟩

end McpConsole.Text
