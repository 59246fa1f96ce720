import McpConsole.Screen.Layout

/-!
# Where the parts of an area are

When all shares of an area can be met, its parts come one after the other (`Share.place_pairwise`), from
the beginning of the area up to its end (`Share.place_bounds`). So the columns of a rectangle are side by
side (`Rect.columns_pairwise`) and inside of it (`Rect.columns_bounds`).
-/

namespace McpConsole.Screen.Share

theorem grown_zero (surplus total : Nat) : grown surplus 0 total = 0 := by
  unfold grown
  split
  · rfl
  · rename_i htotal
    rw [Nat.mul_zero, Nat.zero_add]
    exact Nat.div_eq_of_lt (by omega)

theorem grown_self (surplus : Nat) {total : Nat} (h : total ≠ 0) :
    grown surplus total total = surplus := by
  have hround : 2 * surplus * total + total = total + 2 * total * surplus := by
    rw [Nat.add_comm, Nat.mul_right_comm]
  rw [grown, if_neg h, hround, Nat.add_mul_div_left _ _ (by omega),
    Nat.div_eq_of_lt (by omega), Nat.zero_add]

theorem grown_mono (surplus : Nat) {weight weight' : Nat} (h : weight ≤ weight') (total : Nat) :
    grown surplus weight total ≤ grown surplus weight' total := by
  unfold grown
  split
  · exact Nat.le_refl 0
  · exact Nat.div_le_div_right (Nat.add_le_add_right (Nat.mul_le_mul_left _ h) total)

theorem grown_le (surplus : Nat) {weight total : Nat} (h : weight ≤ total) :
    grown surplus weight total ≤ surplus := by
  by_cases htotal : total = 0
  · rw [grown, if_pos htotal]
    exact Nat.zero_le surplus
  · exact Nat.le_trans (grown_mono surplus h total) (Nat.le_of_eq (grown_self surplus htotal))

/-- The length that parts need together, some columns apart. -/
def needed (spacing : Nat) (shares : List Share) : Nat :=
  (shares.map floor).foldr (· + ·) 0 + spacing * (shares.length - 1)

/-- The weight of parts together. -/
def weights (shares : List Share) : Nat :=
  (shares.map weight).foldr (· + ·) 0

variable {spacing surplus total : Nat}

/-- Parts stay between the beginning of the first one and the end of the last one. -/
theorem place_bounds {start weight : Nat} {shares : List Share} {part : Nat × Nat}
    (h : part ∈ place spacing surplus total start weight shares) :
    start + grown surplus weight total ≤ part.1 ∧
      part.1 + part.2 ≤
        start + needed spacing shares + grown surplus (weight + weights shares) total := by
  induction shares generalizing start weight with
  | nil => cases h
  | cons share shares ih =>
    have hgrown := grown_mono surplus (Nat.le_add_right weight share.weight) total
    have hmono := grown_mono surplus (Nat.le_add_right (weight + share.weight) (weights shares)) total
    have hneeded : needed spacing (share :: shares) =
      share.floor + (shares.map floor).foldr (· + ·) 0 + spacing * shares.length := rfl
    have hweights : weight + weights (share :: shares) = weight + share.weight + weights shares :=
      (Nat.add_assoc _ _ _).symm
    rw [hneeded, hweights]
    rw [place] at h
    rcases List.mem_cons.1 h with rfl | h
    · dsimp only
      omega
    · obtain ⟨hfirst, hlast⟩ := ih h
      have hlength : shares.length - 1 + 1 = shares.length := by
        cases shares with
        | nil => cases h
        | cons share shares => rfl
      have hspacing : spacing * (shares.length - 1) + spacing = spacing * shares.length := by
        rw [← Nat.mul_succ, Nat.succ_eq_add_one, hlength]
      rw [needed] at hlast
      omega

/-- Parts come one after the other. -/
theorem place_pairwise (start weight : Nat) (shares : List Share) :
    (place spacing surplus total start weight shares).Pairwise fun p q => p.1 + p.2 ≤ q.1 := by
  induction shares generalizing start weight with
  | nil => exact .nil
  | cons share shares ih =>
    refine .cons (fun part hpart => ?_) (ih _ _)
    have hgrown := grown_mono surplus (Nat.le_add_right weight share.weight) total
    have hbounds := (place_bounds hpart).1
    dsimp only
    omega

end McpConsole.Screen.Share

namespace McpConsole.Screen.Rect

open Share

variable {r : Rect} {spacing : Nat} {shares : List Share}

theorem columns_of_needed_le (h : needed spacing shares ≤ r.width) :
    r.columns spacing shares =
      (place spacing (r.width - needed spacing shares) (weights shares) 0 0 shares).map
        fun (start, size) => ⟨r.x + start, r.y, size, r.height⟩ :=
  congrArg (List.map _) (if_pos h)

/-- If all shares can be met, the parts of a rectangle are side by side. -/
theorem columns_pairwise (h : needed spacing shares ≤ r.width) :
    (r.columns spacing shares).Pairwise fun a b => a.right ≤ b.x := by
  rw [columns_of_needed_le h, List.pairwise_map]
  refine (place_pairwise 0 0 shares).imp fun {p q} hpq => ?_
  show r.x + p.1 + p.2 ≤ r.x + q.1
  omega

/-- If all shares can be met, the parts of a rectangle are inside of it. -/
theorem columns_bounds (h : needed spacing shares ≤ r.width) {column : Rect}
    (hcolumn : column ∈ r.columns spacing shares) : r.x ≤ column.x ∧ column.right ≤ r.right := by
  rw [columns_of_needed_le h] at hcolumn
  obtain ⟨part, hpart, rfl⟩ := List.mem_map.1 hcolumn
  have hlast := (place_bounds hpart).2
  have hgrown : grown (r.width - needed spacing shares) (0 + weights shares) (weights shares) ≤
      r.width - needed spacing shares := grown_le _ (Nat.le_of_eq (Nat.zero_add _))
  refine ⟨Nat.le_add_right r.x part.1, ?_⟩
  show r.x + part.1 + part.2 ≤ r.x + r.width
  omega

end McpConsole.Screen.Rect
