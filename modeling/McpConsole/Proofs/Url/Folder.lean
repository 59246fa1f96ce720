import McpConsole.Proofs.Url.Domain
import McpConsole.Proofs.Url.Stem

/-!
# Folders

What a URL is that continues a stem behind a slash. The path of the stem leads to a folder,
`Stem.places`, and what comes behind the slash is followed from there (`Stem.below_segments`). The
path of the stem itself is the same but for empty segments at its end (`Stem.own_segments`).

Reading drops blanks and control characters around a text. At the end of a stem they come to stand
in the middle, so that they count when the stem is continued; `lead` is the text with them.
-/

namespace McpConsole.Url

/-! ### What is dropped -/

/-- The text that counts when others follow it. -/
def lead (cs : List Char) : List Char :=
  (cs.dropWhile fun c => c.toNat ≤ 0x20).filter fun c => c != '\t' && c != '\n' && c != '\r'

/-- A text without blanks and control characters. -/
def IsPrinted (cs : List Char) : Prop :=
  ∀ c ∈ cs, 0x20 < c.toNat

theorem IsPrinted.filter {cs : List Char} (h : IsPrinted cs) :
    (cs.filter fun c => c != '\t' && c != '\n' && c != '\r') = cs := by
  rw [List.filter_eq_self]
  intro c hc
  have hn := h c hc
  have ht : c ≠ '\t' := by rintro rfl; exact absurd hn (by decide)
  have hl : c ≠ '\n' := by rintro rfl; exact absurd hn (by decide)
  have hr : c ≠ '\r' := by rintro rfl; exact absurd hn (by decide)
  simp [ht, hl, hr]

theorem IsPrinted.dropWhile {cs : List Char} (h : IsPrinted cs) :
    (cs.dropWhile fun c => c.toNat ≤ 0x20) = cs := by
  cases cs with
  | nil => rfl
  | cons c cs =>
    have hn := h c List.mem_cons_self
    exact List.dropWhile_cons_of_neg (by simpa using hn)

theorem lead_append (cs : List Char) {printed : List Char} (h : IsPrinted printed) :
    lead (cs ++ printed) = lead cs ++ printed := by
  unfold lead
  rw [List.dropWhile_append]
  split
  · rename_i he
    rw [List.isEmpty_iff.1 he, h.dropWhile, h.filter]
    rfl
  · rw [List.filter_append, h.filter]

/-- **What comes before a printed end counts** as it does when others follow. -/
theorem cleaned_append (cs : List Char) {printed : List Char} (h : IsPrinted printed)
    (hne : printed ≠ []) : cleaned (cs ++ printed) = lead cs ++ printed := by
  rw [← lead_append cs h]
  unfold cleaned lead
  have hd : (((cs ++ printed).dropWhile fun c => c.toNat ≤ 0x20).reverse.dropWhile
      fun c => c.toNat ≤ 0x20).reverse = (cs ++ printed).dropWhile fun c => c.toNat ≤ 0x20 := by
    rw [List.dropWhile_append]
    have hr : IsPrinted printed.reverse := fun c hc => h c (List.mem_reverse.1 hc)
    have hrne : printed.reverse ≠ [] := by simpa using hne
    split
    · rw [h.dropWhile, hr.dropWhile, List.reverse_reverse]
    · rw [List.reverse_append, List.dropWhile_append, hr.dropWhile, if_neg (by simpa using hne),
        ← List.reverse_append, List.reverse_reverse]
  exact congrArg (List.filter _) hd

/-- What is dropped at the end is blank. -/
theorem lead_eq_cleaned (cs : List Char) :
    ∃ dropped, lead cs = cleaned cs ++ dropped ∧ ∀ c ∈ dropped, IsLow c := by
  unfold lead cleaned
  dsimp only
  generalize (cs.dropWhile fun c => c.toNat ≤ 0x20) = inner
  refine ⟨((inner.reverse.takeWhile fun c => c.toNat ≤ 0x20).reverse).filter
    fun c => c != '\t' && c != '\n' && c != '\r', ?_, fun c hc => ?_⟩
  · rw [← List.filter_append, ← List.reverse_append, List.takeWhile_append_dropWhile,
      List.reverse_reverse]
  · have hm := List.mem_reverse.1 (List.mem_filter.1 hc).1
    exact of_decide_eq_true (of_mem_takeWhile hm)

/-- No blank ends what comes before a path. -/
theorem endsAuthority_of_low {c : Char} (h : IsLow c) : endsAuthority true c = false := by
  have h1 : c ≠ '/' := h.ne (by decide)
  have h2 : c ≠ '\\' := h.ne (by decide)
  have h3 : c ≠ '?' := h.ne (by decide)
  have h4 : c ≠ '#' := h.ne (by decide)
  simp [endsAuthority, isSlash, h1, h2, h3, h4]

theorem endsPath_of_low {c : Char} (h : IsLow c) : endsPath c = false := by
  have he := endsAuthority_of_low h
  simp only [endsAuthority, Bool.or_eq_false_iff] at he
  simp [endsPath, he.1.2, he.2]

namespace Stem

/-! ### Stems with other ends -/

/-- The stem with blanks behind what is before its path. -/
def widened (s : Stem) {dropped : List Char} (hd : ∀ c ∈ dropped, IsLow c) : Stem :=
  { s with
    authority := s.authority ++ dropped
    authority_ne := by simp [s.authority_ne]
    authority_chars := fun c hc =>
      (List.mem_append.1 hc).elim (s.authority_chars c) fun hc => endsAuthority_of_low (hd c hc) }

theorem widened_text {s : Stem} (hp : s.path = []) {dropped : List Char}
    (hd : ∀ c ∈ dropped, IsLow c) : (s.widened hd).text = s.text ++ dropped := by
  simp [widened, text, hp]

/-- The stem with blanks behind its path. -/
def lengthened (s : Stem) (hp : s.path ≠ []) {dropped : List Char} (hd : ∀ c ∈ dropped, IsLow c) :
    Stem :=
  { s with
    path := s.path ++ dropped
    path_head := fun c hc => by
      apply s.path_head c
      cases hpath : s.path with
      | nil => exact absurd hpath hp
      | cons x path =>
        rw [hpath] at hc
        exact hc
    path_chars := fun c hc =>
      (List.mem_append.1 hc).elim (s.path_chars c) fun hc => endsPath_of_low (hd c hc) }

theorem lengthened_text {s : Stem} (hp : s.path ≠ []) {dropped : List Char}
    (hd : ∀ c ∈ dropped, IsLow c) : (s.lengthened hp hd).text = s.text ++ dropped := by
  simp [lengthened, text]

/-- A slash at the end of a stem belongs to its path. -/
theorem exists_of_append_slash (s : Stem) {cs : List Char} (h : s.text = cs ++ ['/']) :
    ∃ t : Stem, t.text = cs ∧ t.scheme = s.scheme ∧ t.authority = s.authority ∧
      s.path = t.path ++ ['/'] := by
  obtain hp | ⟨path, last, hp⟩ := List.eq_nil_or_concat s.path
  · -- without a path, the text ends as what is between the slashes and the path
    obtain ha | ⟨front, last, ha⟩ := List.eq_nil_or_concat s.authority
    · exact absurd ha s.authority_ne
    · have hl : s.text = (s.name ++ ':' :: (s.slashes ++ front)) ++ [last] := by
        simp [text, hp, ha]
      obtain ⟨-, hlast⟩ := List.append_inj' (hl.symm.trans h) rfl
      cases hlast
      cases s.authority_chars '/' (by simp [ha])
  · have hl : s.text = (s.name ++ ':' :: (s.slashes ++ (s.authority ++ path))) ++ [last] := by
      simp [text, hp]
    obtain ⟨hcs, hlast⟩ := List.append_inj' (hl.symm.trans h) rfl
    cases hlast
    refine ⟨{ s with
      path := path
      path_head := fun c hc => s.path_head c (by
        cases path with
        | nil => cases hc
        | cons x path => rw [hp]; exact hc)
      path_chars := fun c hc => s.path_chars c (by simp [hp, hc]) }, hcs, rfl, rfl, ?_⟩
    exact hp.trans List.concat_eq_append

/-- Slashes at the end of a stem belong to its path. -/
theorem exists_of_append_slashes (s : Stem) {cs : List Char} {n : Nat}
    (h : s.text = cs ++ List.replicate n '/') :
    ∃ t : Stem, t.text = cs ∧ t.scheme = s.scheme ∧ t.authority = s.authority ∧
      s.path = t.path ++ List.replicate n '/' := by
  induction n generalizing s with
  | zero => exact ⟨s, by simpa using h, rfl, rfl, by simp⟩
  | succ n ih =>
    rw [List.replicate_succ', ← List.append_assoc] at h
    obtain ⟨t, ht, hs, ha, hp⟩ := s.exists_of_append_slash h
    obtain ⟨u, hu, hs', ha', hp'⟩ := ih t ht
    refine ⟨u, hu, hs'.trans hs, ha'.trans ha, ?_⟩
    rw [hp, hp', List.append_assoc, ← List.replicate_succ']

/-! ### Paths -/

/-- The segments, in reverse order, of the folder that the path of a stem leads to. -/
def places (s : Stem) : List (List Char) :=
  walk [] (match s.path with | [] => [] | _ :: path => piecesFrom true [] path)

/-- **What comes behind a stem is followed from its folder.** -/
theorem below_segments (s : Stem) (rest : List Char) :
    readSegments true (s.path ++ '/' :: rest) =
      (resolve s.places (piecesFrom true [] rest)).map String.ofList := by
  unfold readSegments places
  cases hp : s.path with
  | nil => rfl
  | cons c path =>
    have hc : isSlash true c = true := s.path_head c (by rw [hp]; rfl)
    simp only [List.cons_append, List.head?_cons, Option.any_some, hc, if_true, List.drop_succ_cons,
      List.drop_zero]
    rw [piecesFrom_append (by rfl), resolve_append _ _ (piecesFrom_ne_nil _ _ _)]

/-- The folder itself ends with an empty segment. -/
theorem folder_segments (s : Stem) :
    readSegments true (s.path ++ ['/']) = s.places.reverse.map String.ofList ++ [""] := by
  rw [s.below_segments, piecesFrom, resolve_nil, List.map_append]
  rfl

/-- The path of a stem leads to its folder, but for empty segments. -/
theorem own_segments (s : Stem) (n : Nat) :
    ∃ k, readSegments true (s.path ++ List.replicate n '/') =
      s.places.reverse.map String.ofList ++ List.replicate k "" := by
  have of_resolve {names : List (List Char)} {k : Nat}
      (h : names = s.places.reverse ++ List.replicate k []) :
      names.map String.ofList = s.places.reverse.map String.ofList ++ List.replicate k "" := by
    rw [h, List.map_append, List.map_replicate]
  cases n with
  | zero =>
    rw [List.replicate_zero, List.append_nil]
    unfold readSegments
    unfold places at of_resolve ⊢
    cases hp : s.path with
    | nil => exact ⟨1, rfl⟩
    | cons c path =>
      have hc : isSlash true c = true := s.path_head c (by rw [hp]; rfl)
      rw [hp] at of_resolve
      simp only [List.head?_cons, Option.any_some, hc, if_true, List.drop_succ_cons, List.drop_zero]
      obtain ⟨k, hk⟩ := resolve_eq_walk [] (piecesFrom_ne_nil true [] path)
      exact ⟨k, of_resolve hk⟩
  | succ n =>
    rw [List.replicate_succ, s.below_segments, piecesFrom_replicate (by rfl)]
    exact ⟨n + 1, of_resolve (resolve_replicate _ _)⟩

end Stem

end McpConsole.Url
