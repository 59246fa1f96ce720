import McpConsole.Proofs.Url.Origin

/-!
# Texts of paths

The text of a path has a slash before every segment. Blanks at the end of a text are dropped when it
is read by itself, and are encoded when something is put behind it. `length_pathText_lt` says that
the path becomes longer by them, whatever it ends with, so that a text with such blanks is never
continued as it was read.
-/

namespace McpConsole.Url

variable {c : Char} {cs dropped : List Char}

/-- The text of a path with these segments. -/
def pathText (names : List (List Char)) : List Char :=
  names.flatMap fun name => '/' :: name

theorem segments_text (names : List (List Char)) :
    (Route.segments (names.map String.ofList)).text.toList = pathText names := by
  have hjoin : (Route.segments (names.map String.ofList)).text.toList =
      (names.map fun name => '/' :: name).flatten := by
    simp [Route.text, List.flatMap_def, Function.comp_def]
  rw [hjoin, pathText, List.flatMap_def]

theorem pathText_append (front back : List (List Char)) :
    pathText (front ++ back) = pathText front ++ pathText back :=
  List.flatMap_append

theorem length_pathText_reverse (names : List (List Char)) :
    (pathText names.reverse).length = (pathText names).length := by
  induction names with
  | nil => rfl
  | cons name names ih =>
    have hcons : pathText (name :: names) = pathText [name] ++ pathText names :=
      pathText_append [name] names
    rw [List.reverse_cons, pathText_append, hcons, List.length_append, List.length_append, ih]
    exact Nat.add_comm _ _

theorem pathText_replicate (n : Nat) : pathText (List.replicate n []) = List.replicate n '/' := by
  induction n with
  | zero => rfl
  | succ n ih =>
    rw [List.replicate_succ, List.replicate_succ, ← ih]
    rfl

/-! ### Segments with blanks -/

/-- A blank is no encoded point. -/
theorem mem_undotted (h : IsLow c) (hm : c ∈ cs) : c ∈ undotted cs := by
  have h1 : c ≠ '%' := h.ne (by decide)
  have h2 : c ≠ '2' := h.ne (by decide)
  have h3 : c ≠ 'e' := h.ne (by decide)
  have h4 : c ≠ 'E' := h.ne (by decide)
  induction cs using undotted.induct with
  | case1 e cs he ih =>
    rw [undotted, if_pos he]
    have hce : c ≠ e := by rcases he with rfl | rfl <;> assumption
    simp only [List.mem_cons, h1, h2, hce, false_or] at hm
    exact List.mem_cons_of_mem _ (ih hm)
  | case2 e cs he => rwa [undotted, if_neg he]
  | case3 cs ih =>
    rw [undotted]
    rcases List.mem_cons.1 hm with rfl | hm
    · exact List.mem_cons_self
    · exact List.mem_cons_of_mem _ (ih hm)
  | case4 cs hn hn' => rwa [undotted] <;> assumption

/-- A segment with a blank stands for itself. -/
theorem not_dots_of_low (h : IsLow c) (hm : c ∈ cs) :
    isDoubleDot cs = false ∧ isSingleDot cs = false := by
  have hmem := mem_undotted h hm
  have hpoint : c ≠ '.' := h.ne (by decide)
  constructor
  · refine beq_eq_false_iff_ne.2 fun he => ?_
    rw [he] at hmem
    simp [hpoint] at hmem
  · refine beq_eq_false_iff_ne.2 fun he => ?_
    rw [he] at hmem
    simp [hpoint] at hmem

/-- What is put behind a text and has no slash belongs to the last piece. -/
theorem piecesFrom_append_last {special : Bool} {xs : List Char}
    (h : ∀ x ∈ xs, isSlash special x = false) (piece cs : List Char) :
    ∃ front last, piecesFrom special piece cs = front ++ [last] ∧
      piecesFrom special piece (cs ++ xs) = front ++ [last ++ xs] := by
  induction cs generalizing piece with
  | nil => exact ⟨[], piece, rfl, piecesFrom_of_noSlash h piece⟩
  | cons c cs ih =>
    rw [List.cons_append, piecesFrom, piecesFrom]
    split
    · obtain ⟨front, last, h1, h2⟩ := ih []
      exact ⟨piece :: front, last, by rw [h1]; rfl, by rw [h2]; rfl⟩
    · exact ih (piece ++ [c])

theorem length_encode_pos (h : IsLow c) (hm : c ∈ cs) :
    0 < (encode isEncodedInPath cs).length := by
  have hc : 0 < (encodeChar isEncodedInPath c).length := by
    unfold encodeChar
    split
    · simp
    · rw [(octet_of_low h).2]
      simp [encodeOctet]
  obtain ⟨x, hx⟩ := List.exists_mem_of_length_pos hc
  exact List.length_pos_of_mem (List.mem_flatMap.2 ⟨c, hm, hx⟩)

/-- **A path becomes longer by the blanks behind it**, when it is continued. -/
theorem length_pathText_lt (path : List Char) (hd : ∀ c ∈ dropped, IsLow c) (hne : dropped ≠ []) :
    (pathText (resolve [] (piecesFrom true [] path))).length <
      (pathText (walk [] (piecesFrom true [] (path ++ dropped)))).length := by
  obtain ⟨c, hc⟩ := List.exists_mem_of_ne_nil dropped hne
  have hslash : ∀ x ∈ dropped, isSlash true x = false := by
    intro x hx
    have he := endsAuthority_of_low (hd x hx)
    simp only [endsAuthority, Bool.or_eq_false_iff] at he
    exact he.1.1
  obtain ⟨front, last, h1, h2⟩ := piecesFrom_append_last hslash [] path
  obtain ⟨hdouble, hsingle⟩ := not_dots_of_low (hd c hc) (List.mem_append_right last hc)
  have hlong : (pathText (walk [] (piecesFrom true [] (path ++ dropped)))).length =
      (encode isEncodedInPath last).length + (encode isEncodedInPath dropped).length + 1 +
        (pathText (walk [] front)).length := by
    rw [h2, walk_append, walk, walk, hdouble, hsingle]
    simp [pathText, encode]
    omega
  have hpos := length_encode_pos (hd c hc) hc
  have hdrop : (pathText ((walk [] front).drop 1)).length ≤ (pathText (walk [] front)).length := by
    cases walk [] front with
    | nil => exact Nat.le_refl _
    | cons name names =>
      rw [← List.singleton_append, pathText_append, List.length_append]
      exact Nat.le_add_left _ _
  rw [hlong, h1, resolve_append _ _ (List.cons_ne_nil _ _), resolve_singleton]
  split
  · rw [pathText_append, List.length_append, length_pathText_reverse]
    have hone : (pathText [[]]).length = 1 := rfl
    omega
  · split
    · rw [pathText_append, List.length_append, length_pathText_reverse]
      have hone : (pathText [[]]).length = 1 := rfl
      omega
    · rw [pathText_append, List.length_append, length_pathText_reverse]
      have hone : (pathText [encode isEncodedInPath last]).length =
          (encode isEncodedInPath last).length + 1 := by simp [pathText]
      omega

namespace Stem

variable {s t : Stem} {n : Nat}

/-- Slashes at the end of a path are the only difference between it and its folder. -/
theorem path_text (hpath : s.path = t.path ++ List.replicate n '/') :
    ∃ k, (Route.segments (readSegments true s.path)).text.toList =
      pathText t.places.reverse ++ List.replicate k '/' := by
  obtain ⟨k, hk⟩ := t.own_segments n
  have hnames : t.places.reverse.map String.ofList ++ List.replicate k "" =
      (t.places.reverse ++ List.replicate k []).map String.ofList := by simp
  refine ⟨k, ?_⟩
  rw [hpath, hk, hnames, segments_text, pathText_append, pathText_replicate]

/-- **Blanks at the end of a path make its folder longer** than the path. -/
theorem length_path_lt (hpath : s.path ++ dropped = t.path ++ List.replicate n '/')
    (hd : ∀ c ∈ dropped, IsLow c) (hne : dropped ≠ []) :
    (Route.segments (readSegments true s.path)).text.toList.length <
      (pathText t.places.reverse).length := by
  obtain rfl := eq_zero_of_append_low hpath.symm hd hne
  rw [List.replicate_zero, List.append_nil] at hpath
  rw [length_pathText_reverse]
  unfold places readSegments
  rw [segments_text, ← hpath]
  cases hp : s.path with
  | nil =>
    -- a path begins with a slash, and not with a blank
    obtain ⟨c, rest, rfl⟩ := List.exists_cons_of_ne_nil hne
    have hslash := t.path_head c (by simp [← hpath, hp])
    have hends := endsAuthority_of_low (hd c List.mem_cons_self)
    simp [endsAuthority, hslash] at hends
  | cons c path =>
    have hc : isSlash true c = true := s.path_head c (by rw [hp]; rfl)
    simp only [List.head?_cons, Option.any_some, hc, if_true, List.drop_succ_cons, List.drop_zero,
      List.cons_append]
    exact length_pathText_lt path hd hne

end Stem

end McpConsole.Url
