import McpConsole.Proofs.CommandLine.Attempt
import McpConsole.Proofs.Profile

/-!
# Saved settings come back

Settings that were saved are what the program works out the next time, if nothing else is said then
(`saved_settings_return`): the base URL, the role and the user come from the profile, where no blank
value is, and the access token is looked for anew, since no profile has one. For two runs of the
program this means that the second one works with the client, the role and the user of the first one
(`prepare_again`).
-/

namespace McpConsole.CommandLine

open McpConsole.Program
open McpConsole.Text

/-- Nothing is said about the settings. Where the profile is may be said. -/
structure Invocation.IsBare (inv : Invocation) : Prop where
  baseUrl : inv.baseUrl = none
  token : inv.token = none
  role : inv.role = none
  userId : inv.userId = none

/-! ### The program and its files -/

/-- The program loads the profile that is on the disk. -/
theorem outcome_loadProfile (path : String) (scene : Scene) :
    Attempt.outcome (loadProfile path) scene =
      ((Profile.load scene.disk path).mapError (Failure.ofProfile ("load profile " ++ path)),
        scene) := rfl

/-- Saving a profile step by step. The folders that were made stay, if the file cannot be written. -/
theorem outcome_saveProfile_steps (path : String) (p : Profile) (scene : Scene) :
    Attempt.outcome (saveProfile path p) scene =
      match scene.disk.makeParents path with
      | .error cause => (.error (Failure.ofProfile ("save profile " ++ path) cause), scene)
      | .ok made =>
        match made.write path p.text.toUTF8 with
        | .error cause =>
          (.error (Failure.ofProfile ("save profile " ++ path) cause), { scene with disk := made })
        | .ok after => (.ok (), { scene with disk := after }) := by
  unfold saveProfile
  dsimp only
  rw [Attempt.outcome_bind, Attempt.outcome_ofScript]
  cases hmade : scene.disk.makeParents path with
  | error cause =>
    simp only [Script.run, Scene.change, hmade]
    rfl
  | ok made =>
    simp only [Script.run, Scene.change, hmade]
    rw [Attempt.outcome_bind, Attempt.outcome_orFail]
    simp only [Except.mapError]
    rw [Attempt.outcome_bind, Attempt.outcome_ofScript]
    simp only [Script.run, Scene.change]
    cases made.write path p.text.toUTF8 with
    | error cause => rfl
    | ok after => rfl

/-- The program saves a profile as `Profile.save` does, or fails for the same cause. -/
theorem outcome_saveProfile (path : String) (p : Profile) (scene : Scene) :
    match p.save scene.disk path with
    | .ok disk =>
      Attempt.outcome (saveProfile path p) scene = (.ok (), { scene with disk := disk })
    | .error cause => (Attempt.outcome (saveProfile path p) scene).1 =
      .error (Failure.ofProfile ("save profile " ++ path) cause) := by
  rw [outcome_saveProfile_steps, Profile.save]
  cases scene.disk.makeParents path with
  | error cause => rfl
  | ok made =>
    simp only [bind, Except.bind]
    cases made.write path p.text.toUTF8 with
    | error cause => rfl
    | ok after => rfl

theorem save_of_outcome {path : String} {p : Profile} {scene after : Scene}
    (h : Attempt.outcome (saveProfile path p) scene = (.ok (), after)) :
    p.save scene.disk path = .ok after.disk := by
  have hsave := outcome_saveProfile path p scene
  rw [h] at hsave
  cases hdisk : p.save scene.disk path with
  | error cause =>
    rw [hdisk] at hsave
    cases hsave
  | ok disk =>
    rw [hdisk] at hsave
    cases hsave
    rfl

/-- Looking for a token changes nothing. -/
theorem run_discover (env : Environment) (baseUrl : String) (scene : Scene) :
    ((Credential.discover env baseUrl).run scene).2 = scene := by
  unfold Credential.discover
  split
  · rfl
  · split
    · rfl
    · rfl

/-- Settling comes to the settings for a token that was found. -/
theorem exists_outcome_settle (env : Environment) (inv : Invocation) (profile : Profile)
    (scene : Scene) : ∃ found, Attempt.outcome (settle env inv profile) scene =
      (.ok (resolveSettings inv profile fun _ => found), scene) := by
  unfold settle
  rw [Attempt.outcome_bind, Attempt.outcome_ofScript]
  dsimp only
  rw [Attempt.outcome_pure]
  cases inv.token with
  | some token => exact ⟨_, rfl⟩
  | none => exact ⟨_, by rw [run_discover]⟩

/-- Without a token the program looks for one, for the base URL of the settings. -/
theorem settle_of_isBare (env : Environment) {bare : Invocation} (h : bare.IsBare)
    (profile : Profile) :
    settle env bare profile = (do
      let found ← .ofScript (Credential.discover env (bare.resolvedBase profile))
      return resolveSettings bare profile fun _ => found) := by
  rw [settle, h.token]

/-! ### Settings -/

theorem nonBlank_nonBlank (value : Option String) : nonBlank (nonBlank value) = nonBlank value := by
  rw [nonBlank, nonBlank, Option.filter_filter]
  simp

/-- What is worked out from the profile of settings. -/
theorem resolveSettings_profile {bare : Invocation} (h : bare.IsBare) (settings : Settings)
    (lookUp : String → Option String) :
    resolveSettings bare settings.profile lookUp =
      ⟨settings.baseUrl, .ofValues (lookUp settings.baseUrl) settings.session.role
        settings.session.userId⟩ := by
  obtain ⟨hbase, htoken, hrole, huserId⟩ := h
  simp [resolveSettings, Invocation.resolvedBase, Settings.profile, hbase, htoken, hrole, huserId]

/-- Settings that were worked out have no blank values, and are worked out again. -/
theorem resolveSettings_again {bare : Invocation} (h : bare.IsBare) (inv : Invocation)
    (profile : Profile) (discover lookUp : String → Option String) :
    let settings := resolveSettings inv profile discover
    resolveSettings bare settings.profile lookUp =
      ⟨settings.baseUrl, ⟨nonBlank (lookUp settings.baseUrl), settings.session.role,
        settings.session.userId⟩⟩ := by
  intro settings
  rw [resolveSettings_profile h, Session.ofValues]
  simp only [settings, resolveSettings, Session.ofValues, nonBlank_nonBlank]

/-- **Saved settings come back.** The profile that is loaded after settings were saved gives the
same base URL, role and user to an invocation that says nothing, and the access token is the one
that is found for this base URL. The file has no other keys than those of a profile, and its text is
the same whatever token is given or found. -/
theorem saved_settings_return (inv : Invocation) (profile : Profile)
    (discover : String → Option String) (disk : Disk) (path : String) {after : Disk}
    (hsave : (resolveSettings inv profile discover).profile.save disk path = .ok after) :
    let settings := resolveSettings inv profile discover
    ∃ loaded text members, Profile.load after path = .ok loaded ∧
      after.readText path = .ok text ∧ Json.read? text.toList = some (.object members) ∧
      (∀ bare : Invocation, bare.IsBare →
        (∀ lookUp, resolveSettings bare loaded lookUp =
          ⟨settings.baseUrl, ⟨nonBlank (lookUp settings.baseUrl), settings.session.role,
            settings.session.userId⟩⟩) ∧
        ∀ env, settle env bare loaded = do
          let found ← .ofScript (Credential.discover env settings.baseUrl)
          return resolveSettings bare loaded fun _ => found) ∧
      (∀ member ∈ members, member.1 ∈ Profile.keys.map some) ∧
      ∀ token lookUp,
        (resolveSettings { inv with token := token } profile lookUp).profile.text = text := by
  intro settings
  refine ⟨settings.profile, settings.profile.text, _, Profile.load_of_save hsave,
    Profile.readText_of_save hsave, Profile.read?_text settings.profile, ?_, ?_, fun _ _ => rfl⟩
  · intro bare hbare
    refine ⟨resolveSettings_again hbare inv profile discover, fun env => ?_⟩
    rw [settle_of_isBare env hbare, Invocation.resolvedBase, hbare.baseUrl]
    rfl
  · intro member hmember
    obtain ⟨field, hfield, rfl⟩ := List.mem_map.1 hmember
    exact List.mem_map_of_mem (Profile.mem_keys_of_mem_present hfield)

/-- A blank role is not saved, and the user comes back from a new folder. -/
theorem saved_settings_return_user :
    let inv : Invocation :=
      ⟨some "https://x.dev", some "sk", some " ", some "ops", none, true, none⟩
    ∃ after loaded,
      (resolveSettings inv .empty fun _ => none).profile.save ⟨[], []⟩ "state/profile.json" =
        .ok after ∧
      Profile.load after "state/profile.json" = .ok loaded ∧
      resolveSettings default loaded (fun _ => none) =
        ⟨"https://x.dev", ⟨none, none, some "ops"⟩⟩ := by
  intro inv
  obtain ⟨after, hsave⟩ : ∃ after,
      (resolveSettings inv .empty fun _ => none).profile.save ⟨[], []⟩ "state/profile.json" =
        .ok after := by
    have hparent : Path.parent? "state/profile.json" = some "state" := by decide +kernel
    have hmade : Disk.makeParents ⟨[], []⟩ "state/profile.json" =
        .ok ⟨[(["state"], .folder)], []⟩ := by
      rw [Disk.makeParents, hparent]
      rfl
    have hcan : Disk.CanWrite ⟨[(["state"], .folder)], []⟩ "state/profile.json"
        ["state", "profile.json"] := ⟨rfl, nofun, by decide⟩
    exact ⟨_, (Profile.save_eq_ok_iff _ _ _ _).2 ⟨_, _, hmade, hcan, rfl⟩⟩
  obtain ⟨loaded, -, -, hload, -, -, hbare, -, -⟩ :=
    saved_settings_return inv .empty (fun _ => none) ⟨[], []⟩ "state/profile.json" hsave
  have hdefault : (default : Invocation).IsBare := ⟨rfl, rfl, rfl, rfl⟩
  refine ⟨after, loaded, hsave, hload, ?_⟩
  rw [(hbare default hdefault).1]
  decide

/-! ### The next run -/

theorem outcome_configure_eq_ok_iff {settings : Settings} {scene after : Scene} {session : Session}
    {client : Api.Client} :
    Attempt.outcome (configure settings) scene = (.ok (session, client), after) ↔
      Api.Client.ofBase settings.baseUrl = .ok client ∧ settings.session = session ∧
        scene = after := by
  rw [configure, Attempt.outcome_bind, Attempt.outcome_orFail]
  cases Api.Client.ofBase settings.baseUrl with
  | error cause => simp [Except.mapError]
  | ok made =>
    simp only [Except.mapError, Attempt.outcome_pure, Prod.mk.injEq, Except.ok.injEq]
    tauto

/-- What comes before a command, if nothing is saved: the settings that the profile on the disk
gives. -/
theorem outcome_prepare {env : Environment} {inv : Invocation} {scene : Scene} {profile : Profile}
    (hcommand : inv.command ≠ none) (hkeeps : inv.saveProfile = false)
    (hload : Profile.load scene.disk (profilePath env inv) = .ok profile) :
    ∃ found, Attempt.outcome (prepare env inv) scene =
      Attempt.outcome (configure (resolveSettings inv profile fun _ => found)) scene := by
  have hlog : logFor env inv = pure () := by
    rw [logFor, if_neg (by simpa using hcommand)]
  have hremember : ∀ path settings, remember inv path settings = pure () := by
    intro path settings
    rw [remember, if_neg (by simp [hkeeps])]
  obtain ⟨found, hsettle⟩ := exists_outcome_settle env inv profile scene
  refine ⟨found, ?_⟩
  unfold prepare
  simp only [hlog, hremember, Attempt.outcome_bind, Attempt.outcome_pure, outcome_loadProfile,
    hload, Except.mapError, hsettle]

/-- **The next run of the program** works with the client, the role and the user of the run that
saved them, if it is for a command as well and says nothing about the settings. -/
theorem prepare_again {env : Environment} {inv bare : Invocation} {scene after : Scene}
    {session : Session} {client : Api.Client}
    (h : Attempt.outcome (prepare env inv) scene = (.ok (session, client), after))
    (hsaves : inv.saveProfile = true) (hbare : bare.IsBare) (hprofile : bare.profile = inv.profile)
    (hcommand : bare.command ≠ none) (hkeeps : bare.saveProfile = false) :
    ∃ credential, Attempt.outcome (prepare env bare) after =
      (.ok (⟨credential, session.role, session.userId⟩, client), after) := by
  obtain ⟨-, logged, -, hlogged⟩ := Attempt.exists_of_outcome_bind h
  obtain ⟨profile, loaded, -, hloaded⟩ := Attempt.exists_of_outcome_bind hlogged
  obtain ⟨settings, settled, hsettings, hsettled⟩ := Attempt.exists_of_outcome_bind hloaded
  obtain ⟨⟨⟩, saved, hsave, hsaved⟩ := Attempt.exists_of_outcome_bind hsettled
  obtain ⟨found, hsettle⟩ := exists_outcome_settle env inv profile loaded
  obtain ⟨hresolved, rfl⟩ := Prod.mk.inj (hsettle.symm.trans hsettings)
  obtain rfl := Except.ok.inj hresolved
  obtain ⟨hclient, rfl, rfl⟩ := outcome_configure_eq_ok_iff.1 hsaved
  rw [remember, if_pos hsaves] at hsave
  have hpath : profilePath env bare = profilePath env inv := by
    rw [profilePath, profilePath, hprofile]
  have hload := Profile.load_of_save (save_of_outcome hsave)
  rw [← hpath] at hload
  obtain ⟨found', hprepare⟩ := outcome_prepare hcommand hkeeps hload
  rw [resolveSettings_again hbare] at hprepare
  exact ⟨nonBlank found', hprepare.trans (outcome_configure_eq_ok_iff.2 ⟨hclient, rfl, rfl⟩)⟩

end McpConsole.CommandLine
