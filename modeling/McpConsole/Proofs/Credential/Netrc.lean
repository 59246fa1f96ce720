import McpConsole.Credential.Netrc
import McpConsole.Proofs.Text.Blank

/-!
# Whose password is found

A file of passwords is a list of stanzas, each about one machine or about all others (`Stanza`).
Reading it gives the password that `pick` takes from the stanzas (`passwordFrom_fileOf`), as long as
no login is one of the words that `passwordFrom` knows. Then a password comes from a stanza that
speaks of the host, and nothing else that the file says makes a difference (`IsOwn`).

A login is read like any other word that has no meaning, so that a login that has one is taken for
it: `login_isHarmless_iff` says that the logins that leave all passwords where they belong are the
ones that are no keyword, and `password_of_another` has the password of another machine given away.

Of several stanzas, the first one about the host counts before the last one about all others, in
whatever order they stand (`IsPreferred`). `password_isPreferred_iff` says that this is the password
that is read.
-/

namespace McpConsole.Credential

open McpConsole.Text

/-- The words that have a meaning. -/
def keywords : List String :=
  ["machine", "default", "password"]

/-! ### Stanzas -/

/-- What a file says of a machine, or of all machines that it does not name. -/
structure Stanza where
  machine : Option String
  login : Option String
  password : Option String
  /-- Whether the password is written before the login. -/
  passwordFirst : Bool
  deriving DecidableEq, Repr

namespace Stanza

/-- The words that say of which machine a stanza speaks. -/
def subject (s : Stanza) : List String :=
  match s.machine with
  | some name => ["machine", name]
  | none => ["default"]

/-- A field, if there is one. -/
def field (key : String) (value : Option String) : List String :=
  match value with
  | some word => [key, word]
  | none => []

/-- The words of a stanza. -/
def words (s : Stanza) : List String :=
  s.subject ++
    if s.passwordFirst then field "password" s.password ++ field "login" s.login
    else field "login" s.login ++ field "password" s.password

/-- Of which hosts a stanza speaks. -/
def topic (s : Stanza) (host : String) : Topic :=
  match s.machine with
  | some name => if isSameHost name host then .thisHost else .otherHosts
  | none => .anyHost

/-- A stanza that a password for a host may come from: it names the host, whatever the case of ASCII
letters, or it names none. -/
def SpeaksOf (s : Stanza) (host : String) : Prop :=
  ∀ name, s.machine = some name → isSameHost name host = true

instance (s : Stanza) (host : String) : Decidable (s.SpeaksOf host) :=
  match h : s.machine with
  | none => isTrue (by simp [SpeaksOf, h])
  | some name => decidable_of_iff (isSameHost name host = true) (by simp [SpeaksOf, h])

/-- A stanza whose login has no other meaning. -/
def HasPlainLogin (s : Stanza) : Prop :=
  ∀ login, s.login = some login → login ∉ keywords

/-- A stanza without its login. -/
def withoutLogin (s : Stanza) : Stanza :=
  { s with login := none }

theorem speaksOf_iff (s : Stanza) (host : String) :
    s.SpeaksOf host ↔ s.topic host ≠ .otherHosts := by
  unfold SpeaksOf topic
  cases s.machine with
  | none => simp
  | some name => cases h : isSameHost name host <;> simp [h]

end Stanza

/-- The words of a file. -/
def fileOf (stanzas : List Stanza) : List String :=
  stanzas.flatMap Stanza.words

/-- A text that is a file of these stanzas, with any blanks between and around the words. -/
def IsFileOf (stanzas : List Stanza) (content : String) : Prop :=
  LaysOut ((fileOf stanzas).map String.toList) content.toList

/-- The password that stanzas have for a host: the first one for this host, or else the last one for
all others. -/
def pick (host : String) (fallback : Option String) : List Stanza → Option String
  | [] => fallback
  | s :: stanzas =>
    match s.topic host, s.password with
    | .thisHost, some password => some password
    | .anyHost, some password => pick host (some password) stanzas
    | _, _ => pick host fallback stanzas

/-- The stanzas that speak of a host, without their logins. -/
def ownStanzas (host : String) (stanzas : List Stanza) : List Stanza :=
  (stanzas.filter fun s => s.SpeaksOf host).map Stanza.withoutLogin

/-! ### Reading -/

section Reading

variable (host : String) (topic : Topic) (fallback : Option String) (rest : List String)

theorem passwordFrom_subject (s : Stanza) :
    passwordFrom host topic fallback (s.subject ++ rest) =
      passwordFrom host (s.topic host) fallback rest := by
  unfold Stanza.subject Stanza.topic
  cases s.machine with
  | none =>
    conv => lhs; unfold passwordFrom
    simp
  | some name =>
    conv => lhs; unfold passwordFrom
    simp

/-- A word without a meaning makes no difference. -/
theorem passwordFrom_plain {word : String} (h : word ∉ keywords) :
    passwordFrom host topic fallback (word :: rest) = passwordFrom host topic fallback rest := by
  simp only [keywords, List.mem_cons, List.not_mem_nil, or_false, not_or] at h
  obtain ⟨hmachine, hdefault, hpassword⟩ := h
  conv => lhs; unfold passwordFrom
  rw [if_neg hmachine, if_neg hdefault, if_neg hpassword]

theorem passwordFrom_login {login : Option String}
    (h : ∀ word, login = some word → word ∉ keywords) :
    passwordFrom host topic fallback (Stanza.field "login" login ++ rest) =
      passwordFrom host topic fallback rest := by
  have hkey : "login" ∉ keywords := by decide
  cases login with
  | none => rfl
  | some word =>
    have hword := h word rfl
    exact (passwordFrom_plain host topic fallback _ hkey).trans
      (passwordFrom_plain host topic fallback rest hword)

theorem passwordFrom_password (password : Option String) :
    passwordFrom host topic fallback (Stanza.field "password" password ++ rest) =
      match topic, password with
      | .thisHost, some word => some word
      | .anyHost, some word => passwordFrom host .anyHost (some word) rest
      | topic, _ => passwordFrom host topic fallback rest := by
  cases password with
  | none => cases topic <;> rfl
  | some word => cases topic <;> simp [Stanza.field, passwordFrom]

/-- What is read in a stanza. -/
theorem passwordFrom_words {s : Stanza} (h : s.HasPlainLogin) :
    passwordFrom host topic fallback (s.words ++ rest) =
      match s.topic host, s.password with
      | .thisHost, some password => some password
      | .anyHost, some password => passwordFrom host .anyHost (some password) rest
      | topic, _ => passwordFrom host topic fallback rest := by
  rw [Stanza.words, List.append_assoc, passwordFrom_subject]
  cases s.passwordFirst with
  | true =>
    rw [if_pos rfl, List.append_assoc, passwordFrom_password]
    -- the login is read after the password, in whatever state the password leaves
    split
    · rfl
    · exact passwordFrom_login host _ _ rest h
    · exact passwordFrom_login host _ _ rest h
  | false =>
    rw [if_neg Bool.false_ne_true, List.append_assoc, passwordFrom_login host _ _ _ h,
      passwordFrom_password]

end Reading

/-- **What is read in a file.** -/
theorem passwordFrom_fileOf {stanzas : List Stanza} (h : ∀ s ∈ stanzas, s.HasPlainLogin)
    (host : String) (topic : Topic) (fallback : Option String) :
    passwordFrom host topic fallback (fileOf stanzas) = pick host fallback stanzas := by
  induction stanzas generalizing topic fallback with
  | nil => rfl
  | cons s stanzas ih =>
    have hs : s.HasPlainLogin := h s List.mem_cons_self
    have hrest : ∀ s' ∈ stanzas, s'.HasPlainLogin := fun s' hs' => h s' (List.mem_cons_of_mem s hs')
    rw [fileOf, List.flatMap_cons, passwordFrom_words host topic fallback _ hs, pick]
    split
    · rfl
    · exact ih hrest _ _
    · exact ih hrest _ _

/-! ### Own passwords -/

theorem exists_of_pick {host password : String} {fallback : Option String} {stanzas : List Stanza}
    (h : pick host fallback stanzas = some password) :
    fallback = some password ∨ ∃ s ∈ stanzas, s.SpeaksOf host ∧ s.password = some password := by
  induction stanzas generalizing fallback with
  | nil => exact .inl h
  | cons s stanzas ih =>
    rw [pick] at h
    split at h
    · rename_i htopic hpassword
      have hspeaks : s.SpeaksOf host := (s.speaksOf_iff host).2 (by simp [htopic])
      exact .inr ⟨s, List.mem_cons_self, hspeaks, hpassword.trans h⟩
    · rename_i htopic hpassword
      have hspeaks : s.SpeaksOf host := (s.speaksOf_iff host).2 (by simp [htopic])
      rcases ih h with hfallback | ⟨s', hs', hown⟩
      · exact .inr ⟨s, List.mem_cons_self, hspeaks, hpassword.trans hfallback⟩
      · exact .inr ⟨s', List.mem_cons_of_mem s hs', hown⟩
    · rcases ih h with hfallback | ⟨s', hs', hown⟩
      · exact .inl hfallback
      · exact .inr ⟨s', List.mem_cons_of_mem s hs', hown⟩

/-- Only the stanzas that speak of a host count, and of them not the login. -/
theorem pick_ownStanzas (host : String) (fallback : Option String) (stanzas : List Stanza) :
    pick host fallback (ownStanzas host stanzas) = pick host fallback stanzas := by
  induction stanzas generalizing fallback with
  | nil => rfl
  | cons s stanzas ih =>
    unfold ownStanzas at ih ⊢
    by_cases hs : s.SpeaksOf host
    · rw [List.filter_cons_of_pos (by simpa using hs), List.map_cons, pick, pick]
      have htopic : s.withoutLogin.topic host = s.topic host := rfl
      have hpassword : s.withoutLogin.password = s.password := rfl
      rw [htopic, hpassword]
      split
      · rfl
      · exact ih _
      · exact ih _
    · have htopic : s.topic host = .otherHosts := by
        rw [s.speaksOf_iff] at hs
        exact Decidable.not_not.1 hs
      rw [List.filter_cons_of_neg (by simpa using hs), ih, pick, htopic]

/-- A password for a host is one of its own: it comes from a stanza that speaks of the host, and it
would be the same if the file said nothing of other machines and of logins. -/
structure IsOwn (host : String) (stanzas : List Stanza) (content : String) : Prop where
  speaksOf : ∀ password, passwordFor? content host = some password →
    ∃ s ∈ stanzas, s.SpeaksOf host ∧ s.password = some password
  only : passwordFor? content host =
    passwordFrom host .otherHosts none (fileOf (ownStanzas host stanzas))

theorem passwordFor?_of_isFileOf {stanzas : List Stanza} {content : String}
    (h : IsFileOf stanzas content) (host : String) :
    passwordFor? content host = passwordFrom host .otherHosts none (fileOf stanzas) := by
  have hwords : fileWords content = fileOf stanzas := by
    rw [fileWords, words_of_laysOut h, List.map_map]
    simp
  rw [passwordFor?, hwords]

theorem isOwn_of_hasPlainLogin {stanzas : List Stanza} {content : String}
    (h : IsFileOf stanzas content) (hplain : ∀ s ∈ stanzas, s.HasPlainLogin) (host : String) :
    IsOwn host stanzas content := by
  have hread := passwordFor?_of_isFileOf h host
  rw [passwordFrom_fileOf hplain] at hread
  constructor
  · intro password hpassword
    rcases exists_of_pick (hread.symm.trans hpassword) with hnone | hown
    · cases hnone
    · exact hown
  · have hown : ∀ s ∈ ownStanzas host stanzas, s.HasPlainLogin := by
      intro s hs
      obtain ⟨s', -, rfl⟩ := List.mem_map.1 hs
      intro login hlogin
      cases hlogin
    rw [hread, passwordFrom_fileOf hown, pick_ownStanzas]

/-! ### Logins -/

/-- A text is the file of its stanzas if its words are theirs. -/
theorem isFileOf_of_words {stanzas : List Stanza} {content : String}
    (h : words content.toList = (fileOf stanzas).map String.toList) : IsFileOf stanzas content :=
  words_eq_iff.1 h

/-- For each keyword there is a file with no other login that has one, which gives a host a password
that is none of its own. -/
theorem exists_leak {login : String} (h : login ∈ keywords) :
    ∃ stanzas content host password, IsFileOf stanzas content ∧
      (∀ s ∈ stanzas, s.login = some login ∨ s.login = none) ∧
      passwordFor? content host = some password ∧
      ∀ s ∈ stanzas, s.SpeaksOf host → s.password ≠ some password := by
  simp only [keywords, List.mem_cons, List.not_mem_nil, or_false] at h
  rcases h with rfl | rfl | rfl
  · -- the keyword takes the next one for a name, and the name that follows is read as a keyword
    refine ⟨[⟨some "other.dev", some "machine", none, false⟩,
        ⟨some "default", none, some "s3cret", false⟩],
      "machine other.dev login machine machine default password s3cret", "api.example.com",
      "s3cret", isFileOf_of_words ?_, ?_, ?_, ?_⟩ <;> decide +kernel
  · -- what follows is read as said of all hosts
    refine ⟨[⟨some "other.dev", some "default", some "s3cret", false⟩],
      "machine other.dev login default password s3cret", "api.example.com", "s3cret",
      isFileOf_of_words ?_, ?_, ?_, ?_⟩ <;> decide +kernel
  · -- the keyword takes the next one for the password
    refine ⟨[⟨some "api.example.com", some "password", some "s3cret", false⟩],
      "machine api.example.com login password password s3cret", "api.example.com", "password",
      isFileOf_of_words ?_, ?_, ?_, ?_⟩ <;> decide +kernel

/-- **The logins that leave every password where it belongs** are the ones that are no keyword: with
them, and however a file is laid out, a host gets a password of its own or none. -/
theorem login_isHarmless_iff (login : String) :
    (∀ stanzas content, IsFileOf stanzas content →
        (∀ s ∈ stanzas, ∀ word, s.login = some word → word = login ∨ word ∉ keywords) →
        ∀ host, IsOwn host stanzas content) ↔
      login ∉ keywords := by
  constructor
  · intro h hkey
    obtain ⟨stanzas, content, host, password, hfile, hlogin, hread, hother⟩ := exists_leak hkey
    have hown : IsOwn host stanzas content := by
      refine h stanzas content hfile (fun s hs word hword => .inl ?_) host
      rcases hlogin s hs with hs | hs
      · exact Option.some.inj (hword.symm.trans hs)
      · cases hword.symm.trans hs
    obtain ⟨s, hs, hspeaks, hpassword⟩ := hown.speaksOf password hread
    exact hother s hs hspeaks hpassword
  · intro hkey stanzas content hfile hlogins host
    have hplain : ∀ s ∈ stanzas, s.HasPlainLogin := by
      intro s hs word hword
      rcases hlogins s hs word hword with rfl | hword
      · exact hkey
      · exact hword
    exact isOwn_of_hasPlainLogin hfile hplain host

/-- Names and passwords may be keywords. -/
theorem login_isHarmless_iff_plain :
    IsOwn "machine" [⟨some "default", some "me", some "machine", true⟩,
        ⟨some "MACHINE", some "me", some "password", false⟩]
      "machine default\n\tpassword machine login me\nmachine MACHINE login me password password\n" :=
  (login_isHarmless_iff "me").2 (by decide) _ _ (isFileOf_of_words (by decide +kernel))
    (by simp) _

/-- **A login may give away the password of another machine.** The word `default` behind `login` is
read as the beginning of what is said of all hosts. -/
theorem password_of_another :
    IsFileOf [⟨some "other.dev", some "default", some "s3cret", false⟩]
        "machine other.dev login default password s3cret" ∧
      passwordFor? "machine other.dev login default password s3cret" "api.example.com" =
        some "s3cret" :=
  ⟨isFileOf_of_words (by decide +kernel), by decide +kernel⟩

/-! ### Precedence -/

namespace Stanza

/-- A stanza about a machine that has the name of a host, whatever the case of ASCII letters. -/
def Names (s : Stanza) (host : String) : Prop :=
  ∃ name, s.machine = some name ∧ isSameHost name host = true

/-- The password of a stanza about a host. -/
def ownPassword? (host : String) (s : Stanza) : Option String :=
  if s.topic host = .thisHost then s.password else none

/-- The password of a stanza about all machines that are not named. -/
def commonPassword? (s : Stanza) : Option String :=
  if s.machine = none then s.password else none

theorem topic_eq_thisHost_iff (s : Stanza) (host : String) :
    s.topic host = .thisHost ↔ s.Names host := by
  unfold topic Names
  cases s.machine with
  | none => simp
  | some name => simp

theorem topic_eq_anyHost_iff (s : Stanza) (host : String) :
    s.topic host = .anyHost ↔ s.machine = none := by
  unfold topic
  cases s.machine with
  | none => simp
  | some name =>
    simp only [reduceCtorEq, iff_false]
    split <;> simp

theorem ownPassword?_eq_some_iff {host password : String} {s : Stanza} :
    s.ownPassword? host = some password ↔ s.Names host ∧ s.password = some password := by
  rw [ownPassword?, ← topic_eq_thisHost_iff]
  split <;> simp [*]

theorem ownPassword?_eq_none_iff {host : String} {s : Stanza} :
    s.ownPassword? host = none ↔ (s.Names host → s.password = none) := by
  rw [ownPassword?, ← topic_eq_thisHost_iff]
  split <;> simp [*]

theorem commonPassword?_eq_some_iff {password : String} {s : Stanza} :
    s.commonPassword? = some password ↔ s.machine = none ∧ s.password = some password := by
  rw [commonPassword?]
  split <;> simp [*]

theorem commonPassword?_eq_none_iff {s : Stanza} :
    s.commonPassword? = none ↔ (s.machine = none → s.password = none) := by
  rw [commonPassword?]
  split <;> simp [*]

end Stanza

/-- The password that a host has by a list of stanzas, if it has one. -/
inductive IsPreferred (host : String) (stanzas : List Stanza) : Option String → Prop
  /-- The first stanza about the host that has a password, wherever those about all others
  stand. -/
  | own {before after : List Stanza} {s : Stanza} {password : String}
      (hsplit : stanzas = before ++ s :: after) (hnames : s.Names host)
      (hpassword : s.password = some password)
      (hfirst : ∀ t ∈ before, t.Names host → t.password = none) :
      IsPreferred host stanzas (some password)
  /-- The last stanza about all others that has a password, if none about the host has one. -/
  | common {before after : List Stanza} {s : Stanza} {password : String}
      (hsplit : stanzas = before ++ s :: after) (hall : s.machine = none)
      (hpassword : s.password = some password)
      (hlast : ∀ t ∈ after, t.machine = none → t.password = none)
      (hown : ∀ t ∈ stanzas, t.Names host → t.password = none) :
      IsPreferred host stanzas (some password)
  | nothing (hown : ∀ t ∈ stanzas, t.Names host → t.password = none)
      (hcommon : ∀ t ∈ stanzas, t.machine = none → t.password = none) :
      IsPreferred host stanzas none

/-- The two searches that one reading of the stanzas comes to. -/
theorem pick_eq (host : String) (fallback : Option String) (stanzas : List Stanza) :
    pick host fallback stanzas =
      (stanzas.findSome? (Stanza.ownPassword? host)).or
        ((stanzas.reverse.findSome? Stanza.commonPassword?).or fallback) := by
  induction stanzas generalizing fallback with
  | nil => rfl
  | cons s stanzas ih =>
    rw [pick, List.findSome?_cons, List.reverse_cons, List.findSome?_append, Option.or_assoc]
    have hlast : [s].findSome? Stanza.commonPassword? = s.commonPassword? := by
      rw [List.findSome?_cons]
      cases s.commonPassword? <;> rfl
    rw [hlast]
    cases htopic : s.topic host with
    | thisHost =>
      have hmachine : s.machine ≠ none := by
        rw [Ne, ← s.topic_eq_anyHost_iff host, htopic]
        simp
      cases hpassword : s.password with
      | some password => simp [Stanza.ownPassword?, htopic, hpassword]
      | none => simp [Stanza.ownPassword?, Stanza.commonPassword?, htopic, hpassword, ih]
    | anyHost =>
      have hmachine := (s.topic_eq_anyHost_iff host).1 htopic
      cases hpassword : s.password with
      | some password =>
        simp [Stanza.ownPassword?, Stanza.commonPassword?, htopic, hmachine, hpassword, ih]
      | none => simp [Stanza.ownPassword?, Stanza.commonPassword?, htopic, hpassword, ih]
    | otherHosts =>
      have hmachine : s.machine ≠ none := by
        rw [Ne, ← s.topic_eq_anyHost_iff host, htopic]
        simp
      simp [Stanza.ownPassword?, Stanza.commonPassword?, htopic, hmachine, ih]

/-- **The password that is read** is that of the first stanza about the host that has one, wherever
stanzas about all others stand; without one, it is that of the last stanza about all others that has
one; and otherwise there is none. -/
theorem password_isPreferred_iff {stanzas : List Stanza} {content : String}
    (h : IsFileOf stanzas content) (hplain : ∀ s ∈ stanzas, s.HasPlainLogin) (host : String)
    (result : Option String) :
    passwordFor? content host = result ↔ IsPreferred host stanzas result := by
  have hread : passwordFor? content host =
      (stanzas.findSome? (Stanza.ownPassword? host)).or
        (stanzas.reverse.findSome? Stanza.commonPassword?) := by
    rw [passwordFor?_of_isFileOf h, passwordFrom_fileOf hplain, pick_eq, Option.or_none]
  have hnone : stanzas.findSome? (Stanza.ownPassword? host) = none ↔
      ∀ t ∈ stanzas, t.Names host → t.password = none := by
    simp only [List.findSome?_eq_none_iff, Stanza.ownPassword?_eq_none_iff]
  rw [hread]
  constructor
  · rintro rfl
    cases hown : stanzas.findSome? (Stanza.ownPassword? host) with
    | some password =>
      obtain ⟨before, s, after, hsplit, hs, hfirst⟩ := List.findSome?_eq_some_iff.1 hown
      obtain ⟨hnames, hpassword⟩ := Stanza.ownPassword?_eq_some_iff.1 hs
      exact .own hsplit hnames hpassword fun t ht =>
        Stanza.ownPassword?_eq_none_iff.1 (hfirst t ht)
    | none =>
      cases hcommon : stanzas.reverse.findSome? Stanza.commonPassword? with
      | some password =>
        obtain ⟨after, s, before, hsplit, hs, hlast⟩ := List.findSome?_eq_some_iff.1 hcommon
        obtain ⟨hall, hpassword⟩ := Stanza.commonPassword?_eq_some_iff.1 hs
        have hsplit : stanzas = before.reverse ++ s :: after.reverse := by
          rw [← List.reverse_reverse stanzas, hsplit]
          simp
        refine .common hsplit hall hpassword (fun t ht => ?_) (hnone.1 hown)
        exact Stanza.commonPassword?_eq_none_iff.1 (hlast t (List.mem_reverse.1 ht))
      | none =>
        refine .nothing (hnone.1 hown) fun t ht => ?_
        exact Stanza.commonPassword?_eq_none_iff.1
          (List.findSome?_eq_none_iff.1 hcommon t (List.mem_reverse.2 ht))
  · intro hpreferred
    cases hpreferred with
    | own hsplit hnames hpassword hfirst =>
      have hown : stanzas.findSome? (Stanza.ownPassword? host) = some _ :=
        List.findSome?_eq_some_iff.2 ⟨_, _, _, hsplit,
          Stanza.ownPassword?_eq_some_iff.2 ⟨hnames, hpassword⟩,
          fun t ht => Stanza.ownPassword?_eq_none_iff.2 (hfirst t ht)⟩
      rw [hown, Option.some_or]
    | common hsplit hall hpassword hlast hown =>
      have hcommon : stanzas.reverse.findSome? Stanza.commonPassword? = some _ :=
        List.findSome?_eq_some_iff.2 ⟨_, _, _, by rw [hsplit, List.reverse_append,
            List.reverse_cons, List.append_assoc, List.singleton_append],
          Stanza.commonPassword?_eq_some_iff.2 ⟨hall, hpassword⟩,
          fun t ht => Stanza.commonPassword?_eq_none_iff.2 (hlast t (List.mem_reverse.1 ht))⟩
      rw [hnone.2 hown, hcommon, Option.none_or]
    | nothing hown hcommon =>
      have hcommon : stanzas.reverse.findSome? Stanza.commonPassword? = none :=
        List.findSome?_eq_none_iff.2 fun t ht =>
          Stanza.commonPassword?_eq_none_iff.2 (hcommon t (List.mem_reverse.1 ht))
      rw [hnone.2 hown, hcommon, Option.none_or]

/-- Stanzas about all others stand before and after, the first stanza about the host has no password,
and names and passwords are keywords. -/
theorem password_isPreferred_iff_second :
    IsPreferred "machine"
      [⟨none, none, some "fallback", false⟩, ⟨some "MACHINE", some "me", none, false⟩,
        ⟨some "Machine", some "me", some "default", true⟩, ⟨none, none, some "password", false⟩]
      (some "default") := by
  have hfile : IsFileOf
      [⟨none, none, some "fallback", false⟩, ⟨some "MACHINE", some "me", none, false⟩,
        ⟨some "Machine", some "me", some "default", true⟩, ⟨none, none, some "password", false⟩]
      ("default password fallback machine MACHINE login me\nmachine Machine " ++
        "password default login me\n\tdefault password password") :=
    isFileOf_of_words (by decide +kernel)
  exact (password_isPreferred_iff hfile (by simp [Stanza.HasPlainLogin, keywords]) _ _).1
    (by decide +kernel)

end McpConsole.Credential
