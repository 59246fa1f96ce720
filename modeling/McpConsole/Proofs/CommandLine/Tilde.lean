import McpConsole.CommandLine.Command
import McpConsole.Proofs.Text.Blank

/-!
# Where a path with a tilde leads

A path that is joined to another one goes on from the components of that one, unless it begins at the
root (`Path.components_join`): then nothing is left of the other one. So a path that begins with a tilde
and a slash leads below the home folder exactly if no other slash follows, or if what follows names the
home folder by itself. `profile_staysHome_iff` says this of the path of the profile, however it is
given, and `profile_leavesHome` has a profile elsewhere.
-/

namespace McpConsole

open McpConsole.Text

/-! ### Components of paths -/

namespace Path

/-- What a path begins at, if that is not a name: the root, or the folder that one is in. -/
def anchor (path : String) : List String :=
  if isAbsolute path then ["/"]
  else if (piecesFrom [] path.toList).head? = some ['.'] then ["."] else []

/-- The components of a path. Slashes that follow each other, a slash at the end and names of one point
behind the beginning are none. -/
def components (path : String) : List String :=
  anchor path ++ names path

theorem piecesFrom_append (piece before after : List Char) :
    piecesFrom piece (before ++ '/' :: after) = piecesFrom piece before ++ piecesFrom [] after := by
  induction before generalizing piece with
  | nil => rfl
  | cons c before ih =>
    rw [List.cons_append, piecesFrom, piecesFrom]
    split
    · rw [ih, List.cons_append]
    · rw [ih]

theorem piecesFrom_ne_nil (piece cs : List Char) : piecesFrom piece cs ≠ [] := by
  induction cs generalizing piece with
  | nil => exact List.cons_ne_nil _ _
  | cons c cs ih =>
    rw [piecesFrom]
    split
    · exact List.cons_ne_nil _ _
    · exact ih _

section Slash

variable {before after : List Char}

theorem head?_piecesFrom_append (piece before after : List Char) :
    (piecesFrom piece (before ++ '/' :: after)).head? = (piecesFrom piece before).head? := by
  rw [piecesFrom_append, List.head?_append_of_ne_nil _ (piecesFrom_ne_nil piece before)]

/-- What a path begins at does not depend on what is behind a slash in it. -/
theorem anchor_append (before after : List Char) :
    anchor (String.ofList (before ++ '/' :: after)) = anchor (String.ofList (before ++ ['/'])) := by
  have hhead : (before ++ '/' :: after).head? = (before ++ ['/']).head? := by
    cases before <;> rfl
  simp only [anchor, isAbsolute, String.toList_ofList, hhead, head?_piecesFrom_append]

theorem names_append (before after : List Char) :
    names (String.ofList (before ++ '/' :: after)) =
      names (String.ofList before) ++ names (String.ofList after) := by
  simp only [names, String.toList_ofList, piecesFrom_append, List.filter_append, List.map_append]

theorem names_append_slash (before : List Char) :
    names (String.ofList (before ++ ['/'])) = names (String.ofList before) := by
  rw [names_append]
  exact List.append_nil _

theorem components_append (before after : List Char) :
    components (String.ofList (before ++ '/' :: after)) =
      components (String.ofList (before ++ ['/'])) ++ names (String.ofList after) := by
  rw [components, components, anchor_append, names_append, names_append_slash, List.append_assoc]

/-- A slash at the end is no component, unless it is all there is. -/
theorem components_append_slash (hne : before ≠ []) :
    components (String.ofList (before ++ ['/'])) = components (String.ofList before) := by
  have hanchor : anchor (String.ofList (before ++ ['/'])) = anchor (String.ofList before) := by
    simp only [anchor, isAbsolute, String.toList_ofList, head?_piecesFrom_append,
      List.head?_append_of_ne_nil before hne]
  rw [components, components, hanchor, names_append_slash]

end Slash

/-- **A path that is joined** to another one goes on from its components, unless it is absolute. -/
theorem components_join {base path : String} (hbase : base ≠ "") (hpath : isAbsolute path = false) :
    components (join base path) = components base ++ names path := by
  have hne : base.toList ≠ [] := fun h => hbase (String.toList_eq_nil_iff.1 h)
  unfold join
  rw [if_neg (by simp [hpath, hbase])]
  split
  · rename_i hslash
    obtain ⟨before, hbefore⟩ := List.getLast?_eq_some_iff.1 hslash
    have hwhole : base ++ path = String.ofList (before ++ '/' :: path.toList) := by
      rw [← String.toList_inj, String.toList_append, hbefore, String.toList_ofList,
        List.append_assoc, List.singleton_append]
    have hself : String.ofList (before ++ ['/']) = base := by
      rw [← hbefore, String.ofList_toList]
    rw [hwhole, components_append, hself, String.ofList_toList]
  · have hwhole : base ++ "/" ++ path = String.ofList (base.toList ++ '/' :: path.toList) := by
      rw [← String.toList_inj, String.toList_ofList]
      simp
    rw [hwhole, components_append, components_append_slash hne, String.ofList_toList,
      String.ofList_toList]

end Path

/-! ### Paths with a tilde -/

namespace Environment

variable {env : Environment} {home p rest : String}

/-- Neither a variable nor the password database makes an empty text the home folder. -/
theorem home_ne_empty (h : env.home? = some home) : home ≠ "" := by
  have hnamed : ∀ folder : Option String,
      (folder.filter fun folder => !folder.isEmpty) = some home → home ≠ "" := by
    intro folder hfolder
    have hnonempty := (Option.filter_eq_some_iff.1 hfolder).2
    rintro rfl
    cases hnonempty
  rcases Option.or_eq_some_iff.1 h with h | ⟨-, h⟩
  · exact hnamed _ h
  · exact hnamed _ h

theorem expandTilde_eq (hhome : env.home? = some home) (h : trimmed p = "~/" ++ rest) :
    env.expandTilde p = if rest = "" then home else Path.join home rest := by
  have htext : trim p.toList = '~' :: '/' :: rest.toList := by
    rw [← String.toList_ofList (l := trim p.toList)]
    change (trimmed p).toList = _
    rw [h, String.toList_append]
    rfl
  have hafter : afterTilde? (trim p.toList) = some rest.toList := by
    rw [htext]
    rfl
  simp only [expandTilde, hafter, hhome]
  by_cases hrest : rest = ""
  · subst hrest
    rfl
  · have hne : rest.toList ≠ [] := fun hnil => hrest (String.toList_eq_nil_iff.1 hnil)
    obtain ⟨c, cs, hcons⟩ := List.exists_cons_of_ne_nil hne
    rw [if_neg hrest, hcons]
    dsimp only
    rw [← hcons, String.ofList_toList]

/-- What follows the tilde goes on from the home folder, unless it is absolute. -/
theorem components_expandTilde (hhome : env.home? = some home) (h : trimmed p = "~/" ++ rest)
    (hrest : Path.isAbsolute rest = false) :
    Path.components (env.expandTilde p) = Path.components home ++ Path.names rest := by
  rw [expandTilde_eq hhome h]
  split
  · rename_i hempty
    rw [hempty]
    exact (List.append_nil _).symm
  · exact Path.components_join (home_ne_empty hhome) hrest

/-- Nothing is left of the home folder if an absolute path follows the tilde. -/
theorem expandTilde_of_isAbsolute (hhome : env.home? = some home) (h : trimmed p = "~/" ++ rest)
    (hrest : Path.isAbsolute rest = true) : env.expandTilde p = rest := by
  have hne : rest ≠ "" := by
    rintro rfl
    cases hrest
  rw [expandTilde_eq hhome h, if_neg hne, Path.join, if_pos (.inl hrest)]

end Environment

/-! ### The path of the profile -/

namespace CommandLine

variable {env : Environment} {inv : Invocation} {home p rest : String}

/-- The path of the profile is what is given for it, by an argument or else by a variable. -/
theorem profilePath_of_given (hblank : isBlankText p = false)
    (h : inv.profile.or (env.get? "MCPDASH_PROFILE_PATH") = some p) :
    profilePath env inv = env.expandTilde p := by
  cases hprofile : inv.profile with
  | some q =>
    rw [hprofile, Option.some_or] at h
    obtain rfl := Option.some.inj h
    rw [profilePath, hprofile]
  | none =>
    rw [hprofile, Option.none_or] at h
    have hexpand : env.expandTilde (trimmed p) = env.expandTilde p := by
      simp only [Environment.expandTilde, trimmed, String.toList_ofList, trim_trim]
    rw [profilePath, hprofile, ← hexpand]
    simp only [Profile.defaultPath, h, trimmedNonBlank_some, hblank, Bool.false_eq_true, if_false]

/-- **A path that begins with a tilde and a slash** leads to the home folder or below, as far as names
tell, exactly if no absolute path follows, or one that leads there by itself. What is not absolute goes
on from the home folder, so that only names of two points lead out of it, and an absolute path is taken
as it is. The path of the profile is such a path, whether an argument or a variable gives it. -/
theorem profile_staysHome_iff (hhome : env.home? = some home) (h : trimmed p = "~/" ++ rest) :
    (Path.components home <+: Path.components (env.expandTilde p) ↔
        Path.isAbsolute rest = false ∨ Path.components home <+: Path.components rest) ∧
      (Path.isAbsolute rest = false →
        Path.components (env.expandTilde p) = Path.components home ++ Path.names rest) ∧
      (Path.isAbsolute rest = true → env.expandTilde p = rest) ∧
      ∀ inv : Invocation, inv.profile.or (env.get? "MCPDASH_PROFILE_PATH") = some p →
        profilePath env inv = env.expandTilde p := by
  have hblank : isBlankText p = false := by
    rw [← isEmpty_trimmed, h, Bool.eq_false_iff]
    simp
  refine ⟨?_, Environment.components_expandTilde hhome h,
    Environment.expandTilde_of_isAbsolute hhome h, fun inv => profilePath_of_given hblank⟩
  cases hrest : Path.isAbsolute rest with
  | false =>
    rw [Environment.components_expandTilde hhome h hrest]
    exact iff_of_true (List.prefix_append _ _) (.inl rfl)
  | true =>
    rw [Environment.expandTilde_of_isAbsolute hhome h hrest]
    simp

/-- The variables of a user with a home folder, and others. -/
def homeOf (given : List (String × String)) : Environment :=
  ("HOME", "/home/u/") :: given

/-- A profile in a folder beside that of the user, by way of names of two points, and one below the home
folder that is named by an absolute path. -/
theorem profile_staysHome_iff_beside :
    Path.components
        (profilePath (homeOf []) { (default : Invocation) with profile := some " ~/../v//p.json " }) =
      ["/", "home", "u", "..", "v", "p.json"] ∧
    Path.components "/home/u/" <+: Path.components
      (profilePath (homeOf [("MCPDASH_PROFILE_PATH", "~//home/./u/p.json")]) default) := by
  have hhome : ∀ given, (homeOf given).home? = some "/home/u/" := fun _ => rfl
  have hbeside : trimmed " ~/../v//p.json " = "~/" ++ "../v//p.json" := by decide +kernel
  have hagain : trimmed "~//home/./u/p.json" = "~/" ++ "/home/./u/p.json" := by decide +kernel
  obtain ⟨-, hnames, -, hpath⟩ := profile_staysHome_iff (hhome []) hbeside
  obtain ⟨hiff, -, -, hvariable⟩ := profile_staysHome_iff (hhome _) hagain
  constructor
  · rw [hpath _ rfl, hnames (by decide)]
    decide +kernel
  · rw [hvariable default rfl]
    exact hiff.2 (.inr (by decide +kernel))

/-- Two slashes after the tilde lead out of the home folder, without a name of two points. -/
theorem profile_leavesHome :
    let env : Environment := [("HOME", "/home/u")]
    let inv : Invocation := { (default : Invocation) with profile := some "~//etc/passwd" }
    env.home? = some "/home/u" ∧ env.expandTilde "~//etc/passwd" = "/etc/passwd" ∧
      profilePath env inv = "/etc/passwd" ∧
      ¬Path.components "/home/u" <+: Path.components "/etc/passwd" ∧
      ".." ∉ Path.components "/etc/passwd" := by
  decide +kernel

end CommandLine

end McpConsole
