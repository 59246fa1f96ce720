import McpConsole.Proofs.Url.Percent
import McpConsole.Url.Reader

/-!
# Pieces and segments of a path

How a path is read that is put together from two texts. `piecesFrom_append` parts the pieces at a
slash, and `resolve_append` follows the pieces of the first text, by `walk`, and then those of the
second. Only the last piece leaves its mark on the end of a path: `resolve_singleton`.

A segment of points stands for the same octets as the points (`decode_undotted`), so that an encoded
text is one only if it is made of points itself.
-/

namespace McpConsole.Url

/-! ### Pieces -/

/-- A slash parts the pieces. -/
theorem piecesFrom_append {special : Bool} {c : Char} (hc : isSlash special c = true)
    (piece before after : List Char) :
    piecesFrom special piece (before ++ c :: after) =
      piecesFrom special piece before ++ piecesFrom special [] after := by
  induction before generalizing piece with
  | nil => simp [piecesFrom, hc]
  | cons x before ih =>
    rw [List.cons_append, piecesFrom, piecesFrom]
    split
    · rw [ih, List.cons_append]
    · rw [ih]

/-- A text without slashes is one piece. -/
theorem piecesFrom_of_noSlash {special : Bool} {cs : List Char}
    (h : ∀ c ∈ cs, isSlash special c = false) (piece : List Char) :
    piecesFrom special piece cs = [piece ++ cs] := by
  induction cs generalizing piece with
  | nil => rw [piecesFrom, List.append_nil]
  | cons c cs ih =>
    rw [piecesFrom, if_neg (by simp [h c List.mem_cons_self]),
      ih fun x hx => h x (List.mem_cons_of_mem c hx)]
    simp

theorem piecesFrom_ne_nil (special : Bool) (piece cs : List Char) :
    piecesFrom special piece cs ≠ [] := by
  induction cs generalizing piece with
  | nil => nofun
  | cons c cs ih =>
    rw [piecesFrom]
    split
    · nofun
    · exact ih _

/-- Slashes alone have nothing between them. -/
theorem piecesFrom_replicate {special : Bool} {c : Char} (hc : isSlash special c = true) (n : Nat) :
    piecesFrom special [] (List.replicate n c) = List.replicate (n + 1) [] := by
  induction n with
  | zero => rfl
  | succ n ih => rw [List.replicate_succ, piecesFrom, if_pos hc, ih, ← List.replicate_succ]

/-- A character of a text occurs in it for a last time. -/
theorem exists_last_of_mem {c : Char} {cs : List Char} (h : c ∈ cs) :
    ∃ before after, cs = before ++ c :: after ∧ c ∉ after := by
  obtain ⟨after, before, he, hn⟩ := List.eq_append_cons_of_mem (List.mem_reverse.2 h)
  refine ⟨before.reverse, after.reverse, ?_, fun hm => hn (List.mem_reverse.1 hm)⟩
  rw [← List.reverse_reverse cs, he]
  simp

/-! ### Segments -/

/-- The segments, in reverse order, that pieces leave when others follow them. -/
def walk (done : List (List Char)) : List (List Char) → List (List Char)
  | [] => done
  | piece :: rest =>
    walk
      (if isDoubleDot piece then done.drop 1
        else if isSingleDot piece then done
        else encode isEncodedInPath piece :: done)
      rest

theorem walk_append (done front back : List (List Char)) :
    walk done (front ++ back) = walk (walk done front) back := by
  induction front generalizing done with
  | nil => rfl
  | cons piece front ih => exact ih _

/-- **The segments of the first pieces do not depend on those that follow.** -/
theorem resolve_append (done front : List (List Char)) {back : List (List Char)} (h : back ≠ []) :
    resolve done (front ++ back) = resolve (walk done front) back := by
  induction front generalizing done with
  | nil => rfl
  | cons piece front ih =>
    have hb : (front ++ back).isEmpty = false := by simp [h]
    rw [List.cons_append, resolve, walk, hb]
    split
    · exact ih _
    · split
      · exact ih _
      · exact ih _

/-- The last piece is a segment of its own, or leaves an empty one. -/
theorem resolve_singleton (done : List (List Char)) (piece : List Char) :
    resolve done [piece] =
      if isDoubleDot piece then (done.drop 1).reverse ++ [[]]
      else if isSingleDot piece then done.reverse ++ [[]]
      else done.reverse ++ [encode isEncodedInPath piece] := by
  simp [resolve]

/-- A path ends with its last piece, or with an empty segment. -/
theorem resolve_last {done front pieces : List (List Char)} {piece last : List Char}
    (h : resolve done (pieces ++ [piece]) = front ++ [last]) :
    last = [] ∨ last = encode isEncodedInPath piece := by
  rw [resolve_append _ _ (List.cons_ne_nil _ _), resolve_singleton] at h
  split at h
  · exact .inl (List.cons.inj (List.append_inj' h rfl).2).1.symm
  · split at h
    · exact .inl (List.cons.inj (List.append_inj' h rfl).2).1.symm
    · exact .inr (List.cons.inj (List.append_inj' h rfl).2).1.symm

/-- A path that ends with points ends with an empty segment. -/
theorem resolve_dots {done front : List (List Char)} {piece last : List Char}
    (hd : isDoubleDot piece = true ∨ isSingleDot piece = true)
    (h : resolve done [piece] = front ++ [last]) : last = [] := by
  rw [resolve_singleton] at h
  split at h
  · exact (List.cons.inj (List.append_inj' h rfl).2).1.symm
  · rename_i hn
    rw [if_pos (hd.resolve_left hn)] at h
    exact (List.cons.inj (List.append_inj' h rfl).2).1.symm

theorem resolve_nil (done : List (List Char)) : resolve done [[]] = done.reverse ++ [[]] :=
  resolve_singleton done []

/-- The end of a path adds nothing but an empty segment. -/
theorem resolve_eq_walk (done : List (List Char)) {pieces : List (List Char)} (h : pieces ≠ []) :
    ∃ n, resolve done pieces = (walk done pieces).reverse ++ List.replicate n [] := by
  rw [← List.dropLast_concat_getLast h, resolve_append _ _ (List.cons_ne_nil _ _),
    resolve_singleton, walk_append, walk, walk]
  split
  · exact ⟨1, rfl⟩
  · split
    · exact ⟨1, rfl⟩
    · exact ⟨0, by simp⟩

/-- Empty pieces are empty segments. -/
theorem resolve_replicate (done : List (List Char)) (n : Nat) :
    resolve done (List.replicate n []) = done.reverse ++ List.replicate n [] := by
  induction n generalizing done with
  | zero => rw [List.replicate_zero, resolve, List.append_nil]
  | succ n ih =>
    have hs : resolve done (List.replicate (n + 1) []) = resolve ([] :: done) (List.replicate n []) :=
      rfl
    rw [hs, ih, List.reverse_cons, List.append_assoc]
    rfl

/-! ### Points -/

/-- Encoded points stand for points. -/
theorem decode_undotted (cs : List Char) : decode (undotted cs) = decode cs := by
  induction cs using undotted.induct with
  | case1 e cs he ih =>
    rw [undotted, if_pos he, decode_cons (by decide), ih]
    rcases he with rfl | rfl
    · rw [decode]
      rfl
    · rw [decode]
      rfl
  | case2 e cs he => rw [undotted, if_neg he]
  | case3 cs ih => rw [undotted, decode_cons (by decide), decode_cons (by decide), ih]
  | case4 cs h1 h2 => rw [undotted] <;> assumption

/-- An encoded text that stands for the present place is a point. -/
theorem isSingleDot_encode {isEncoded : Char → Bool} (hp : isEncoded '%' = true) {s : String}
    (h : isSingleDot (encode isEncoded s.toList) = true) : s = "." := by
  have hd := decode_undotted (encode isEncoded s.toList)
  rw [beq_iff_eq.1 h] at hd
  have hs := textOfOctets?_decode_encode hp s
  rw [← hd, decode_cons (by decide), decode] at hs
  exact Option.some.inj (hs.symm.trans (textOfOctets?_utf8 "."))

/-- An encoded text that leads back is made of two points. -/
theorem isDoubleDot_encode {isEncoded : Char → Bool} (hp : isEncoded '%' = true) {s : String}
    (h : isDoubleDot (encode isEncoded s.toList) = true) : s = ".." := by
  have hd := decode_undotted (encode isEncoded s.toList)
  rw [beq_iff_eq.1 h] at hd
  have hs := textOfOctets?_decode_encode hp s
  rw [← hd, decode_cons (by decide), decode_cons (by decide), decode] at hs
  exact Option.some.inj (hs.symm.trans (textOfOctets?_utf8 ".."))

end McpConsole.Url
