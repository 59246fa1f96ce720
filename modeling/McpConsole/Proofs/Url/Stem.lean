import McpConsole.Proofs.Url.Path

/-!
# Texts that name a host

How a URL is read that begins with a text of its own. A `Stem` is such a text in its parts: the
scheme, the slashes, what is between the slashes and the path, and the path, without a query and a
fragment. `Stem.read_append` says what it is read as with these behind it, and `Stem.exists_of_read`
that every text begins with a stem that is read as a URL by `http` or `https`. A stem can be
continued behind a slash, by `Stem.below`, and this changes the path alone.
-/

namespace McpConsole.Url

/-! ### Runs of characters -/

theorem takeWhile_append_stop {p : Char → Bool} {xs ys : List Char} (hx : ∀ x ∈ xs, p x = true)
    (hy : ∀ y ∈ ys.head?, p y = false) : (xs ++ ys).takeWhile p = xs := by
  rw [List.takeWhile_append_of_pos hx]
  cases ys with
  | nil => simp
  | cons y ys => simp [hy y rfl]

theorem dropWhile_append_stop {p : Char → Bool} {xs ys : List Char} (hx : ∀ x ∈ xs, p x = true)
    (hy : ∀ y ∈ ys.head?, p y = false) : (xs ++ ys).dropWhile p = ys := by
  rw [List.dropWhile_append_of_pos hx]
  cases ys with
  | nil => rfl
  | cons y ys => simp [hy y rfl]

/-- A run of characters begins as the text that it is taken from. -/
theorem head?_takeWhile {p : Char → Bool} {c : Char} {cs : List Char}
    (h : c ∈ (cs.takeWhile p).head?) : c ∈ cs.head? := by
  cases cs with
  | nil => cases h
  | cons x cs =>
    rw [List.takeWhile_cons] at h
    split at h
    · exact h
    · cases h

theorem of_mem_takeWhile {p : Char → Bool} {x : Char} {xs : List Char} (h : x ∈ xs.takeWhile p) :
    p x = true :=
  List.all_eq_true.1 List.all_takeWhile x h

theorem drop_takeWhile (p : Char → Bool) (xs : List Char) :
    xs.drop (xs.takeWhile p).length = xs.dropWhile p := by
  have h : (xs.takeWhile p ++ xs.dropWhile p).drop (xs.takeWhile p).length = xs.dropWhile p :=
    List.drop_left
  rwa [List.takeWhile_append_dropWhile] at h

/-! ### Users, hosts and ports -/

theorem splitUser_suffix (cs : List Char) : (splitUser cs).2 <:+ cs := by
  unfold splitUser
  dsimp only
  split
  · have h : (cs.reverse.takeWhile (· != '@')).reverse <:+ cs.reverse.reverse :=
      List.reverse_suffix.2 (List.takeWhile_prefix _)
    rwa [List.reverse_reverse] at h
  · exact List.suffix_refl cs

/-- A host ends at a colon, or with its text. -/
theorem splitHost_snd (inBrackets : Bool) (cs : List Char) :
    (splitHost inBrackets cs).2 <:+ cs ∧
      ((splitHost inBrackets cs).2 = [] ∨ ∃ rest, (splitHost inBrackets cs).2 = ':' :: rest) := by
  induction cs generalizing inBrackets with
  | nil => exact ⟨List.suffix_refl [], .inl rfl⟩
  | cons c cs ih =>
    rw [splitHost]
    split
    · rename_i hc
      exact ⟨List.suffix_refl _, .inr ⟨cs, by rw [hc.1]⟩⟩
    · obtain ⟨hs, hr⟩ := ih ((inBrackets || c == '[') && c != ']')
      exact ⟨hs.trans (List.suffix_cons c cs), hr⟩

/-- A port leaves nothing where there is no backslash. -/
theorem readPort_rest {scheme : String} {cs rest : List Char} {port : Option Nat}
    (h : readPort scheme (':' :: cs) = .ok (port, rest)) (hb : '\\' ∉ cs) : rest = [] := by
  have hr : '\\' ∉ cs.drop (cs.takeWhile Char.isDigit).length := fun hm =>
    hb (List.mem_of_mem_drop hm)
  rw [readPort] at h
  split at h
  · cases h
  · rename_i hp
    have he : cs.drop (cs.takeWhile Char.isDigit).length = [] := by
      generalize cs.drop (cs.takeWhile Char.isDigit).length = tail at hp hr
      cases tail with
      | nil => rfl
      | cons x tail =>
        have hx : x = '\\' :=
          Decidable.byContradiction fun hne => hp (.inr (by simpa using hne))
        exact absurd (hx ▸ List.mem_cons_self) hr
    rw [he] at h
    split at h <;> cases h <;> rfl

/-- With a special scheme there has to be a host, whatever the path is. -/
theorem readAuthority_of_isSpecial {scheme : String} (hs : isSpecial scheme = true)
    (cs after : List Char) :
    readAuthority scheme cs after =
      match readHost true (splitHost false (splitUser cs).2).1 with
      | .error cause => .error cause
      | .ok host =>
        match readPort scheme (splitHost false (splitUser cs).2).2 with
        | .error cause => .error cause
        | .ok (port, rest) =>
          let user := userParts ((splitUser cs).1.getD [])
          .ok (⟨user.1, user.2, host, port⟩, rest) := by
  unfold readAuthority
  simp only [bind, Except.bind, pure, Except.pure, throw, throwThe, MonadExceptOf.throw, hs]
  cases hh : readHost true (splitHost false (splitUser cs).2).1 with
  | error cause =>
    split
    · rename_i hu
      have he : (splitUser cs).2 = [] := by simpa using hu.2.1
      rw [he] at hh
      cases hh
      rfl
    · rfl
  | ok host =>
    have hsome : host.isNone = false := by
      unfold readHost at hh
      rw [if_pos rfl] at hh
      split at hh
      · cases hh
      · cases hx : specialHost (splitHost false (splitUser cs).2).1 with
        | error => rw [hx] at hh; cases hh
        | ok => rw [hx] at hh; cases hh; rfl
    rw [if_neg]
    · simp only [hsome, Bool.false_eq_true, false_and, if_false]
      cases readPort scheme (splitHost false (splitUser cs).2).2 <;> rfl
    · rintro ⟨-, hu, -⟩
      have he : (splitUser cs).2 = [] := by simpa using hu
      rw [he] at hh
      cases hh

/-- With a special scheme nothing of what is before the path belongs to the path. -/
theorem readAuthority_rest {scheme : String} {cs after rest : List Char} {a : Authority}
    (hs : isSpecial scheme = true) (h : readAuthority scheme cs after = .ok (a, rest))
    (hb : '\\' ∉ cs) : rest = [] := by
  rw [readAuthority_of_isSpecial hs] at h
  split at h
  · cases h
  · split at h
    · cases h
    · rename_i port rest' hp
      cases h
      obtain ⟨hsuf, he | ⟨tail, he⟩⟩ := splitHost_snd false (splitUser cs).2
      · rw [he] at hp
        cases hp
        rfl
      · rw [he] at hp hsuf
        refine readPort_rest hp fun hm => hb ?_
        exact (hsuf.trans (splitUser_suffix cs)).subset (List.mem_cons_of_mem _ hm)

/-- A text that can stand behind a path: nothing, or a query or a fragment with its mark. -/
def EndsPath (tail : List Char) : Prop :=
  ∀ c ∈ tail.head?, endsPath c = true

/-- A text is read in its three parts. -/
theorem readWithHost_append {scheme : String} (hs : isSpecial scheme = true)
    {authority path tail : List Char} (ha : ∀ c ∈ authority, endsAuthority true c = false)
    (hh : ∀ c ∈ path.head?, isSlash true c = true) (hp : ∀ c ∈ path, endsPath c = false)
    (ht : EndsPath tail) :
    readWithHost scheme (authority ++ (path ++ tail)) =
      (readAuthority scheme authority []).map fun a =>
        ⟨scheme, a.1.username, a.1.password, a.1.host, a.1.port,
          .segments (readSegments true path), (readTail true tail).1, (readTail true tail).2⟩ := by
  have hends : ∀ c ∈ (path ++ tail).head?, endsAuthority true c = true := by
    intro c hc
    cases hpath : path with
    | nil =>
      rw [hpath, List.nil_append] at hc
      have he := ht c hc
      simp only [endsPath, Bool.or_eq_true] at he
      rcases he with he | he <;> simp [endsAuthority, he]
    | cons x path =>
      rw [hpath] at hc hh
      simp [endsAuthority, hh c hc]
  have hbefore : (authority ++ (path ++ tail)).takeWhile (fun c => !endsAuthority true c) =
      authority :=
    takeWhile_append_stop (fun c hc => by simp [ha c hc]) fun c hc => by simp [hends c hc]
  have hpath : (path ++ tail).takeWhile (fun c => !endsPath c) = path :=
    takeWhile_append_stop (fun c hc => by simp [hp c hc]) fun c hc => by simp [ht c hc]
  have hb : '\\' ∉ authority := fun h => by cases ha _ h
  unfold readWithHost
  simp only [bind, Except.bind, pure, Except.pure, hs, hbefore, List.drop_left]
  rw [readAuthority_of_isSpecial hs authority, ← readAuthority_of_isSpecial hs authority []]
  cases hr : readAuthority scheme authority [] with
  | error => rfl
  | ok a =>
    obtain ⟨a, rest⟩ := a
    cases readAuthority_rest hs hr hb
    simp only [List.nil_append, hpath, List.drop_left, readPath, Bool.not_true,
      Bool.false_eq_true, and_false, if_false]
    rfl

theorem readWithHost_scheme {scheme : String} {cs : List Char} {url : Url}
    (h : readWithHost scheme cs = .ok url) : url.scheme = scheme := by
  unfold readWithHost at h
  simp only [bind, Except.bind, pure, Except.pure] at h
  split at h
  · cases h
  · cases h
    rfl

theorem readFile_scheme {cs : List Char} {url : Url} (h : readFile cs = .ok url) :
    url.scheme = "file" := by
  unfold readFile at h
  simp only [bind, Except.bind, pure, Except.pure] at h
  split at h
  · cases h
  · cases h
    rfl

/-- Nothing comes after a path without a query and a fragment. -/
theorem eq_nil_of_readTail (special : Bool) {cs : List Char}
    (hh : ∀ c ∈ cs.head?, endsPath c = true) (h : readTail special cs = (none, none)) :
    cs = [] := by
  cases cs with
  | nil => rfl
  | cons c cs =>
    have hc := hh c rfl
    simp only [endsPath, Bool.or_eq_true, beq_iff_eq] at hc
    rcases hc with rfl | rfl
    · simp [readTail] at h
    · simp [readTail] at h

/-- With a special scheme something is before the path. -/
theorem authority_ne_nil {scheme : String} (hs : isSpecial scheme = true) {cs : List Char}
    {url : Url} (h : readWithHost scheme cs = .ok url) :
    cs.takeWhile (fun c => !endsAuthority true c) ≠ [] := by
  intro he
  unfold readWithHost at h
  simp only [bind, Except.bind, hs, he] at h
  rw [readAuthority_of_isSpecial hs] at h
  cases h

/-- A text behind a host ends there, or goes on with a path. -/
theorem exists_path (cs : List Char) (h : ∀ c ∈ cs.head?, endsAuthority true c = true) :
    ∃ path tail, cs = path ++ tail ∧ (∀ c ∈ path.head?, isSlash true c = true) ∧
      (∀ c ∈ path, endsPath c = false) ∧ EndsPath tail := by
  refine ⟨cs.takeWhile fun c => !endsPath c, cs.dropWhile fun c => !endsPath c,
    List.takeWhile_append_dropWhile.symm, fun c hc => ?_, fun c hc => ?_, fun c hc => ?_⟩
  · have he := h c (head?_takeWhile hc)
    have hp := of_mem_takeWhile (List.mem_of_mem_head? hc)
    simp only [endsPath, Bool.not_eq_true', Bool.or_eq_false_iff] at hp
    simpa [endsAuthority, hp.1, hp.2] using he
  · simpa using of_mem_takeWhile hc
  · have hn := List.head?_dropWhile_not (fun c => !endsPath c) cs
    rw [Option.mem_def.1 hc] at hn
    simpa using hn

/-- A text that begins with a scheme has it before a colon. -/
theorem of_splitScheme? {cs name rest : List Char} (h : splitScheme? cs = some (name, rest)) :
    ∃ raw, cs = raw ++ ':' :: rest ∧ name = raw.map Char.toLower ∧
      (∀ c ∈ raw, isSchemeChar c = true) ∧ raw.head?.any Char.isAlpha = true := by
  unfold splitScheme? at h
  dsimp only at h
  rw [drop_takeWhile] at h
  split at h
  · rename_i tail ht
    split at h
    · rename_i ha
      cases h
      refine ⟨cs.takeWhile isSchemeChar, ?_, rfl, fun c hc => of_mem_takeWhile hc, ha⟩
      rw [← ht, List.takeWhile_append_dropWhile]
    · cases h
  · cases h

/-! ### Stems -/

/-- A text that names a host, in its parts. There is no query and no fragment. -/
structure Stem where
  /-- The scheme as it is written. -/
  name : List Char
  slashes : List Char
  /-- What is between the slashes and the path. -/
  authority : List Char
  path : List Char
  name_head : name.head?.any Char.isAlpha = true
  name_chars : ∀ c ∈ name, isSchemeChar c = true
  slashes_chars : ∀ c ∈ slashes, isSlash true c = true
  authority_ne : authority ≠ []
  authority_chars : ∀ c ∈ authority, endsAuthority true c = false
  path_head : ∀ c ∈ path.head?, isSlash true c = true
  path_chars : ∀ c ∈ path, endsPath c = false

/-- The URL that a text is in which nothing is to be dropped. -/
def readCleaned (cs : List Char) : Except Error Url :=
  match splitScheme? cs with
  | none => .error .relativeWithoutBase
  | some (name, rest) =>
    let scheme := String.ofList name
    if scheme = "file" then readFile rest
    else if isSpecial scheme then readWithHost scheme (rest.dropWhile (isSlash true))
    else if ['/', '/'].isPrefixOf rest then readWithHost scheme (rest.drop 2)
    else .ok (readWithoutHost scheme rest)

theorem read_eq (cs : List Char) : read cs = readCleaned (cleaned cs) := rfl

namespace Stem

variable (s : Stem)

/-- The whole text. -/
def text : List Char :=
  s.name ++ ':' :: (s.slashes ++ (s.authority ++ s.path))

def scheme : String :=
  String.ofList (s.name.map Char.toLower)

/-- Whether the scheme is one of the web. -/
def IsWeb : Prop :=
  s.scheme = "http" ∨ s.scheme = "https"

/-- The URL of a stem, from what is before the path. -/
def url (a : Authority) : Url :=
  ⟨s.scheme, a.username, a.password, a.host, a.port, .segments (readSegments true s.path), none,
    none⟩

/-- The URL of a stem with a query and a fragment behind it. -/
def urlWith (a : Authority) (tail : List Char) : Url :=
  { s.url a with query := (readTail true tail).1, fragment := (readTail true tail).2 }

/-- The stem that continues behind a slash. -/
def below (rest : List Char) (h : ∀ c ∈ rest, endsPath c = false) : Stem where
  name := s.name
  slashes := s.slashes
  authority := s.authority
  path := s.path ++ '/' :: rest
  name_head := s.name_head
  name_chars := s.name_chars
  slashes_chars := s.slashes_chars
  authority_ne := s.authority_ne
  authority_chars := s.authority_chars
  path_head c hc := by
    cases hp : s.path with
    | nil =>
      rw [hp] at hc
      cases hc
      rfl
    | cons x path =>
      rw [hp] at hc
      exact s.path_head c (by rw [hp]; exact hc)
  path_chars c hc := by
    rcases List.mem_append.1 hc with hc | hc
    · exact s.path_chars c hc
    · rcases List.mem_cons.1 hc with rfl | hc
      · rfl
      · exact h c hc

theorem below_text (rest : List Char) (h : ∀ c ∈ rest, endsPath c = false) :
    (s.below rest h).text = s.text ++ '/' :: rest := by
  simp [below, text]

variable {s}

theorem IsWeb.isSpecial (h : s.IsWeb) : isSpecial s.scheme = true := by
  rcases h with h | h <;> rw [h] <;> decide

theorem IsWeb.not_file (h : s.IsWeb) : s.scheme ≠ "file" := by
  rcases h with h | h <;> rw [h] <;> decide

theorem splitScheme?_append (s : Stem) (tail : List Char) : splitScheme? (s.text ++ tail) =
    some (s.name.map Char.toLower, s.slashes ++ (s.authority ++ (s.path ++ tail))) := by
  have htext : s.text ++ tail =
      s.name ++ ':' :: (s.slashes ++ (s.authority ++ (s.path ++ tail))) := by simp [text]
  have hname : (s.text ++ tail).takeWhile isSchemeChar = s.name := by
    rw [htext]
    exact takeWhile_append_stop s.name_chars (by rintro y ⟨⟩; decide)
  unfold splitScheme?
  dsimp only
  rw [hname, htext, List.drop_left]
  exact if_pos s.name_head

/-- The first character after the slashes is none. -/
theorem authority_head (s : Stem) (rest : List Char) :
    ∀ c ∈ (s.authority ++ rest).head?, isSlash true c = false := by
  intro c hc
  cases ha : s.authority with
  | nil => exact absurd ha s.authority_ne
  | cons x authority =>
    rw [ha] at hc
    have hx : x = c := Option.some.inj hc
    subst hx
    have h := s.authority_chars x (ha ▸ List.mem_cons_self)
    simp only [endsAuthority, Bool.or_eq_false_iff] at h
    exact h.1.1

/-- **What a stem is read as with others behind it.** Queries and fragments do not matter to what
comes before them. -/
theorem read_append (h : s.IsWeb) {tail : List Char} (ht : EndsPath tail) :
    readCleaned (s.text ++ tail) =
      (readAuthority s.scheme s.authority []).map fun a => s.urlWith a.1 tail := by
  unfold readCleaned
  rw [s.splitScheme?_append]
  have hscheme : String.ofList (s.name.map Char.toLower) = s.scheme := rfl
  dsimp only
  rw [hscheme, if_neg h.not_file, if_pos h.isSpecial,
    dropWhile_append_stop s.slashes_chars (s.authority_head _)]
  exact readWithHost_append h.isSpecial s.authority_chars s.path_head s.path_chars ht

/-- **What a stem is read as.** Nothing but the path depends on what comes after the authority. -/
theorem read (s : Stem) (h : s.IsWeb) :
    readCleaned s.text = (readAuthority s.scheme s.authority []).map fun a => s.url a.1 := by
  have ht : EndsPath [] := nofun
  have hread := s.read_append h ht
  rw [List.append_nil] at hread
  exact hread

/-- **What is read as a web address begins with a stem.** -/
theorem exists_of_read {cs : List Char} {url : Url} (h : readCleaned cs = .ok url)
    (hw : url.scheme = "http" ∨ url.scheme = "https") :
    ∃ (s : Stem) (tail : List Char), cs = s.text ++ tail ∧ EndsPath tail ∧
      s.scheme = url.scheme := by
  have hspecial : isSpecial url.scheme = true := by
    rcases hw with hw | hw <;> rw [hw] <;> decide
  unfold readCleaned at h
  split at h
  · cases h
  · rename_i name rest hs
    obtain ⟨raw, rfl, rfl, hchars, hhead⟩ := of_splitScheme? hs
    dsimp only at h
    split at h
    · rw [readFile_scheme h] at hw
      simp at hw
    · split at h
      · rename_i hsp
        have hne := authority_ne_nil hsp h
        obtain ⟨path, tail, hcs, hhead', hpath, htail⟩ := exists_path
          ((rest.dropWhile (isSlash true)).dropWhile fun c => !endsAuthority true c) fun c hc => by
            have hn := List.head?_dropWhile_not (fun c => !endsAuthority true c)
              (rest.dropWhile (isSlash true))
            rw [Option.mem_def.1 hc] at hn
            simpa using hn
        refine ⟨⟨raw, rest.takeWhile (isSlash true),
          (rest.dropWhile (isSlash true)).takeWhile fun c => !endsAuthority true c, path, hhead,
          hchars, fun c hc => of_mem_takeWhile hc, hne,
          fun c hc => by simpa using of_mem_takeWhile hc, hhead', hpath⟩, tail, ?_, htail,
          (readWithHost_scheme h).symm⟩
        rw [text]
        simp only [List.append_assoc, List.cons_append, ← hcs, List.takeWhile_append_dropWhile]
      · rename_i hsp
        split at h
        · rw [← readWithHost_scheme h] at hsp
          exact absurd hspecial hsp
        · cases h
          exact absurd hspecial hsp

end Stem

end McpConsole.Url
