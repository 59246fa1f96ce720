import McpConsole.Proofs.Url.Domain
import McpConsole.Proofs.Url.Folder

/-!
# Origins

Whom a URL is sent to: its scheme, its host and its port. They are said before the path, as the user
and the password are, so that all texts that begin with the same stem have the same front
(`Stem.read_front`), of which the origin is a part.

What is put behind a text leaves its front as it is, if the text is one that can be continued. A
text whose host comes last and is followed by blanks cannot: the blanks, which do not count at the
end of a text, become a part of the host, or of the port, and neither can have them
(`readAuthority_of_low`). `Stem.exists_kept` says what is left of a text that is read as a web
address when the slashes at its end are taken away.
-/

namespace McpConsole.Url

/-- Whom a URL is sent to. -/
structure Origin where
  scheme : String
  host : Option Host
  port : Option Nat
  deriving DecidableEq, Repr

/-- The origin of a URL. -/
def origin (url : Url) : Origin :=
  ⟨url.scheme, url.host, url.port⟩

/-- What a URL says before its path. -/
def front (url : Url) : String × Authority :=
  (url.scheme, ⟨url.username, url.password, url.host, url.port⟩)

theorem origin_eq_of_front {u v : Url} (h : u.front = v.front) : u.origin = v.origin := by
  simp only [front, Prod.mk.injEq, Authority.mk.injEq] at h
  obtain ⟨hscheme, -, -, hhost, hport⟩ := h
  rw [origin, origin, hscheme, hhost, hport]

/-! ### What is dropped -/

/-- A run of characters ends where it would by itself, or before a character that is none. -/
theorem dropWhile_append_cons {p : Char → Bool} {c : Char} (hc : p c = false) (xs ys : List Char) :
    (xs ++ c :: ys).dropWhile p = xs.dropWhile p ++ c :: ys := by
  induction xs with
  | nil => simp [hc]
  | cons x xs ih =>
    rw [List.cons_append, List.dropWhile_cons, List.dropWhile_cons]
    split
    · exact ih
    · rfl

/-- **What comes before a slash counts** as it does when others follow. -/
theorem cleaned_append_slash (cs rest : List Char) :
    ∃ rest', cleaned (cs ++ '/' :: rest) = lead cs ++ '/' :: rest' := by
  have hslash : decide ('/'.toNat ≤ 0x20) = false := by decide
  unfold cleaned lead
  dsimp only
  rw [dropWhile_append_cons hslash, List.reverse_append, List.reverse_cons, List.append_assoc,
    List.singleton_append, dropWhile_append_cons hslash, List.reverse_append, List.reverse_cons,
    List.reverse_reverse, List.append_assoc, List.singleton_append, List.filter_append,
    List.filter_cons_of_pos (by decide)]
  exact ⟨_, rfl⟩

/-- The text that counts ends with a character that is no blank. -/
theorem printed_of_cleaned {cs : List Char} {c : Char} (h : c ∈ (cleaned cs).getLast?) :
    0x20 < c.toNat := by
  unfold cleaned at h
  dsimp only at h
  generalize (cs.dropWhile fun c => decide (c.toNat ≤ 0x20)).reverse = inner at h
  have hn := List.head?_dropWhile_not (fun c => decide (c.toNat ≤ 0x20)) inner
  cases hd : inner.dropWhile fun c => decide (c.toNat ≤ 0x20) with
  | nil =>
    rw [hd] at h
    cases h
  | cons x rest =>
    have hx : 0x20 < x.toNat := by simpa [hd] using hn
    have hp : IsPrinted [x] := fun y hy => List.mem_singleton.1 hy ▸ hx
    rw [hd, List.reverse_cons, List.filter_append, hp.filter, List.getLast?_concat] at h
    cases h
    exact hx

/-- A text does not end with a blank, but for tabs and line breaks, which never count. -/
def EndsPrinted (cs : List Char) : Prop :=
  ∀ c ∈ (cs.filter fun c => c != '\t' && c != '\n' && c != '\r').getLast?, 0x20 < c.toNat

instance (cs : List Char) : Decidable (EndsPrinted cs) :=
  Option.decidableForallMem _

/-- Blanks are dropped at the end of a text unless it ends with another character. -/
theorem endsPrinted_iff {cs dropped : List Char} (h : lead cs = cleaned cs ++ dropped)
    (hd : ∀ c ∈ dropped, IsLow c) (hne : cleaned cs ≠ []) : EndsPrinted cs ↔ dropped = [] := by
  have hlead : lead cs ≠ [] := by simp [h, hne]
  have hlast : (cs.filter fun c => c != '\t' && c != '\n' && c != '\r').getLast? =
      (lead cs).getLast? := by
    have hcs : cs.takeWhile (fun c => c.toNat ≤ 0x20) ++ cs.dropWhile (fun c => c.toNat ≤ 0x20) =
        cs := List.takeWhile_append_dropWhile
    have hsome : (lead cs).getLast?.isSome = true := by simpa using hlead
    conv => lhs; rw [← hcs, List.filter_append, List.getLast?_append]
    exact Option.or_of_isSome hsome
  unfold EndsPrinted
  rw [hlast, h]
  obtain rfl | ⟨front, last, rfl⟩ := List.eq_nil_or_concat dropped
  · rw [List.append_nil]
    exact ⟨fun _ => rfl, fun _ c hc => printed_of_cleaned hc⟩
  · have hl : last.toNat ≤ 0x20 := hd last (by simp)
    rw [List.concat_eq_append, ← List.append_assoc, List.getLast?_concat]
    constructor
    · intro hp
      exact absurd (hp last rfl) (Nat.not_lt_of_le hl)
    · simp

/-- A text that ends with no blank at all ends with a character that counts. -/
theorem endsPrinted_of_last {cs : List Char} (h : ∀ c ∈ cs.getLast?, 0x20 < c.toNat) :
    EndsPrinted cs := by
  obtain rfl | ⟨front, last, rfl⟩ := List.eq_nil_or_concat cs
  · nofun
  · rw [List.concat_eq_append, List.getLast?_concat] at h
    have hp : IsPrinted [last] := fun c hc => List.mem_singleton.1 hc ▸ h last rfl
    unfold EndsPrinted
    rw [List.concat_eq_append, List.filter_append, hp.filter, List.getLast?_concat]
    exact h

/-! ### Hosts and ports with blanks -/

section Low

variable {d : Char} {front : List Char}

theorem isDigit_of_low (h : IsLow d) : d.isDigit = false := by
  apply h.of_forall
  decide

/-- What is not an at sign at the end of a text is not taken for a user. -/
theorem splitUser_concat (front : List Char) (h : IsLow d) :
    ∃ host, (splitUser (front ++ [d])).2 = host ++ [d] := by
  have hd : d ≠ '@' := h.ne (by decide)
  unfold splitUser
  dsimp only
  split
  · have hr : (front ++ [d]).reverse = d :: front.reverse := by simp
    rw [hr, List.takeWhile_cons_of_pos (by simpa using hd), List.reverse_cons]
    exact ⟨_, rfl⟩
  · exact ⟨front, rfl⟩

theorem splitHost_append (inBrackets : Bool) (cs : List Char) :
    (splitHost inBrackets cs).1 ++ (splitHost inBrackets cs).2 = cs := by
  induction cs generalizing inBrackets with
  | nil => rfl
  | cons c cs ih =>
    rw [splitHost]
    split
    · rfl
    · exact congrArg (c :: ·) (ih _)

/-- A port is not followed by a blank. -/
theorem readPort_of_low (scheme : String) (h : IsLow d) (hb : '\\' ∉ front) :
    readPort scheme (':' :: (front ++ [d])) = .error .invalidPort := by
  have hrest := dropWhile_append_cons (isDigit_of_low h) front []
  have hne : d ≠ '\\' := h.ne (by decide)
  rw [readPort, drop_takeWhile, hrest, if_pos]
  right
  cases hf : front.dropWhile Char.isDigit with
  | nil => simp [hne]
  | cons x xs =>
    have hx : x ∈ front := (List.dropWhile_suffix _).subset (hf ▸ List.mem_cons_self)
    have hxne : x ≠ '\\' := by
      rintro rfl
      exact hb hx
    simp [hxne]

/-- What begins with another character than the last one of a text goes on to the last one. -/
theorem exists_concat_of_suffix {c : Char} {rest : List Char} (hc : c ≠ d)
    (h : c :: rest <:+ front ++ [d]) : ∃ inner, rest = inner ++ [d] ∧ inner ⊆ front := by
  obtain ⟨before, hbefore⟩ := h
  obtain rfl | ⟨inner, last, rfl⟩ := List.eq_nil_or_concat rest
  · obtain ⟨-, hlast⟩ := List.append_inj' hbefore rfl
    exact absurd (List.cons.inj hlast).1 hc
  · rw [List.concat_eq_append] at hbefore ⊢
    rw [← List.cons_append, ← List.append_assoc] at hbefore
    obtain ⟨hfront, hlast⟩ := List.append_inj' hbefore rfl
    refine ⟨inner, by rw [hlast], fun x hx => ?_⟩
    rw [← hfront]
    exact List.mem_append_right _ (List.mem_cons_of_mem _ hx)

/-- **Nothing before a path ends with a blank.** -/
theorem readAuthority_of_low {scheme : String} (hs : isSpecial scheme = true) (h : IsLow d)
    (hb : '\\' ∉ front) (after : List Char) :
    ∃ cause, readAuthority scheme (front ++ [d]) after = .error cause := by
  obtain ⟨host, hu⟩ := splitUser_concat front h
  have hsuffix : host ++ [d] <:+ front ++ [d] := hu ▸ splitUser_suffix (front ++ [d])
  rw [readAuthority_of_isSpecial hs, hu]
  have happ := splitHost_append false (host ++ [d])
  obtain ⟨hsuf, he | ⟨rest, he⟩⟩ := splitHost_snd false (host ++ [d])
  · -- no colon, so that all of it is the text of the host
    rw [he, List.append_nil] at happ
    obtain ⟨cause, hc⟩ := specialHost_of_low host h
    have hread : readHost true (host ++ [d]) = .error cause := by
      rw [readHost, if_pos rfl, if_neg (by simp), hc]
      rfl
    rw [happ, hread]
    exact ⟨cause, rfl⟩
  · -- behind the colon the text is that of the port
    rw [he] at hsuf
    obtain ⟨digits, rfl, hdigits⟩ :=
      exists_concat_of_suffix (h.ne (by decide)).symm (hsuf.trans hsuffix)
    have hbd : '\\' ∉ digits := fun hm => hb (hdigits hm)
    rw [he, readPort_of_low scheme h hbd]
    cases readHost true (splitHost false (host ++ [d])).1 with
    | error cause => exact ⟨cause, rfl⟩
    | ok => exact ⟨.invalidPort, rfl⟩

end Low

namespace Stem

variable {s : Stem}

/-! ### What is kept of a text -/

/-- What is left of the text of a stem with others behind it when slashes are taken from its end.
The text has a `tail`, which is a query or a fragment, and blanks that do not count where they are,
which are `dropped`. -/
inductive Kept (s : Stem) (tail dropped : List Char) (n : Nat) (cs : List Char) : Prop
  /-- A query or a fragment is still there. -/
  | tail (mark : Char) (rest rest' : List Char) (htail : tail = mark :: rest)
      (hcs : cs = s.text ++ mark :: rest')
  /-- The path comes last, or the host without blanks. -/
  | path (t : Stem) (htail : tail = []) (hcs : cs = t.text) (hscheme : t.scheme = s.scheme)
      (hauthority : t.authority = s.authority)
      (hpath : s.path ++ dropped = t.path ++ List.replicate n '/')
  /-- The host comes last, and blanks behind it. -/
  | host (htail : tail = []) (hpath : s.path = []) (hdropped : dropped ≠ [])
      (hcs : cs = s.text ++ dropped)

/-- Slashes at the end of a text come after any other character of it. -/
theorem exists_of_append_replicate {mark : Char} (hm : mark ≠ '/') {cs xs ys : List Char} {n : Nat}
    (h : cs ++ List.replicate n '/' = xs ++ mark :: ys) : ∃ ys', cs = xs ++ mark :: ys' := by
  induction n generalizing ys with
  | zero => exact ⟨ys, by simpa using h⟩
  | succ n ih =>
    rw [List.replicate_succ', ← List.append_assoc] at h
    obtain rfl | ⟨front, last, rfl⟩ := List.eq_nil_or_concat ys
    · obtain ⟨-, hlast⟩ := List.append_inj' h rfl
      exact absurd (List.cons.inj hlast).1.symm hm
    · rw [List.concat_eq_append, ← List.cons_append, ← List.append_assoc] at h
      exact ih (List.append_inj' h rfl).1

/-- A text that ends with blanks does not end with slashes. -/
theorem eq_zero_of_append_low {cs xs dropped : List Char} {n : Nat}
    (h : cs ++ List.replicate n '/' = xs ++ dropped) (hd : ∀ c ∈ dropped, IsLow c)
    (hne : dropped ≠ []) : n = 0 := by
  cases n with
  | zero => rfl
  | succ n =>
    obtain ⟨front, last, rfl⟩ := (List.eq_nil_or_concat dropped).resolve_left hne
    rw [List.replicate_succ', ← List.append_assoc, List.concat_eq_append, ← List.append_assoc] at h
    obtain ⟨-, hlast⟩ := List.append_inj' h rfl
    have hlow := hd last (by simp)
    rw [← (List.cons.inj hlast).1] at hlow
    exact absurd hlow (by decide)

/-- **What is kept of a text.** -/
theorem exists_kept (s : Stem) {tail dropped cs : List Char} {n : Nat} (ht : EndsPath tail)
    (hd : ∀ c ∈ dropped, IsLow c) (h : cs ++ List.replicate n '/' = s.text ++ (tail ++ dropped)) :
    s.Kept tail dropped n cs := by
  cases tail with
  | cons mark rest =>
    have hm : mark ≠ '/' := by
      rintro rfl
      cases ht '/' rfl
    obtain ⟨rest', hcs⟩ := exists_of_append_replicate hm h
    exact .tail mark rest rest' rfl hcs
  | nil =>
    rw [List.nil_append] at h
    by_cases hne : dropped = []
    · rw [hne, List.append_nil] at h
      obtain ⟨t, ht, hs, ha, hp⟩ := s.exists_of_append_slashes h.symm
      exact .path t rfl ht.symm hs ha (by rw [hne, List.append_nil, hp])
    · obtain rfl := eq_zero_of_append_low h hd hne
      rw [List.replicate_zero, List.append_nil] at h
      by_cases hp : s.path = []
      · exact .host rfl hp hne h
      · have htext := lengthened_text hp hd
        exact .path (s.lengthened hp hd) rfl (h.trans htext.symm) rfl rfl (by simp [lengthened])

/-- A text behind a slash is a path, and what may come behind it. -/
theorem exists_below (s : Stem) (rest : List Char) :
    ∃ (t : Stem) (tail : List Char), s.text ++ '/' :: rest = t.text ++ tail ∧ EndsPath tail ∧
      t.scheme = s.scheme ∧ t.authority = s.authority := by
  obtain ⟨path, tail, he, hhead, hpath, htail⟩ := exists_path ('/' :: rest) (by rintro c ⟨⟩; rfl)
  cases path with
  | nil =>
    rw [List.nil_append] at he
    cases htail '/' (by rw [← he]; rfl)
  | cons c path =>
    rw [List.cons_append] at he
    obtain ⟨rfl, hrest⟩ := List.cons.inj he
    refine ⟨s.below path fun c hc => hpath c (List.mem_cons_of_mem _ hc), tail, ?_, htail, rfl, rfl⟩
    rw [below_text, hrest]
    simp

/-- The front of a stem is in what comes before the path. -/
theorem read_front (h : s.IsWeb) {tail : List Char} (ht : EndsPath tail) :
    (readCleaned (s.text ++ tail)).map front =
      (readAuthority s.scheme s.authority []).map fun a => (s.scheme, a.1) := by
  rw [s.read_append h ht]
  cases readAuthority s.scheme s.authority [] with
  | error => rfl
  | ok => rfl

/-- A host with blanks behind it cannot be continued. -/
theorem read_host (h : s.IsWeb) (hp : s.path = []) {dropped : List Char}
    (hd : ∀ c ∈ dropped, IsLow c) (hne : dropped ≠ []) (rest : List Char) :
    ∃ cause, readCleaned (s.text ++ dropped ++ '/' :: rest) = .error cause := by
  obtain ⟨t, tail, ht, htail, hscheme, hauthority⟩ := (s.widened hd).exists_below rest
  have hweb : t.IsWeb := by
    rw [IsWeb, hscheme]
    exact h
  rw [← widened_text hp hd, ht, t.read_append hweb htail, hauthority]
  have hchars := (s.widened hd).authority_chars
  obtain ⟨front, last, rfl⟩ := (List.eq_nil_or_concat dropped).resolve_left hne
  have happ : (s.widened hd).authority = s.authority ++ front ++ [last] := by simp [widened]
  rw [happ] at hchars ⊢
  have hb : '\\' ∉ s.authority ++ front := by
    intro hm
    cases hchars '\\' (List.mem_append_left _ hm)
  obtain ⟨cause, hc⟩ := readAuthority_of_low hweb.isSpecial (hd last (by simp)) hb []
  rw [hc]
  exact ⟨cause, rfl⟩

/-- **What is kept of a text keeps its front** behind a slash, if it can be continued. -/
theorem Kept.read_front {tail dropped cs : List Char} {n : Nat} (hk : s.Kept tail dropped n cs)
    (h : s.IsWeb) (ht : EndsPath tail) (hd : ∀ c ∈ dropped, IsLow c) (rest : List Char) :
    (readCleaned (cs ++ '/' :: rest)).map front =
        (readAuthority s.scheme s.authority []).map (fun a => (s.scheme, a.1)) ∨
      dropped ≠ [] ∧ ∃ cause, readCleaned (cs ++ '/' :: rest) = .error cause := by
  cases hk with
  | tail mark rest' rest'' htail hcs =>
    subst htail hcs
    left
    rw [List.append_assoc]
    exact s.read_front h ht
  | path t htail hcs hscheme hauthority hpath =>
    subst hcs
    left
    obtain ⟨u, tail', hu, htail', hscheme', hauthority'⟩ := t.exists_below rest
    have hweb : u.IsWeb := by
      rw [IsWeb, hscheme', hscheme]
      exact h
    rw [hu, u.read_front hweb htail', hscheme', hauthority', hscheme, hauthority]
  | host htail hpath hdropped hcs =>
    subst hcs
    exact .inr ⟨hdropped, read_host h hpath hd hdropped rest⟩

end Stem

end McpConsole.Url
