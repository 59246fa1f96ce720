import McpConsole.Proofs.CommandLine.Saved
import McpConsole.Proofs.Disk.Folders

/-!
# A base URL that is refused

The settings are saved before a client is made for them. A base URL that no client takes ends the
program then, after the profile was written: `rejected_profile_iff` says exactly when the file of the
profile is what it was before. Otherwise the base URL is remembered, and later commands are refused
for it as well, until another one is given.

A run with such a base URL is the saving and then the failure (`run_of_isRefused`). What saving
leaves in the file is said by `file?_of_save` and, where it fails, by `exists_outcome_saveProfile`.
-/

namespace McpConsole.CommandLine

open McpConsole.Program

/-- What the profile is to remember of an invocation. The access token is no part of it. -/
def Invocation.kept (inv : Invocation) (profile : Profile) : Profile :=
  (resolveSettings inv profile fun _ => none).profile

/-- A profile can be written to the file at a path. -/
def CanSave (p : Profile) (disk : Disk) (path : String) : Prop :=
  ∃ after, p.save disk path = .ok after

/-- The log is started and the profile is loaded, and then no client takes the base URL of the
settings. -/
structure IsRefused (env : Environment) (inv : Invocation) (scene logged : Scene) (profile : Profile)
    (cause : Api.Error) : Prop where
  starts : Attempt.outcome (logFor env inv) scene = (.ok (), logged)
  loads : Profile.load logged.disk (profilePath env inv) = .ok profile
  refuses : Api.Client.ofBase (inv.resolvedBase profile) = .error cause

/-- The failure for a base URL that is refused. -/
def refusal (cause : Api.Error) : Failure :=
  ⟨"configure API client", [cause.message]⟩

variable {env : Environment} {inv : Invocation} {scene logged : Scene} {profile : Profile}
  {cause : Api.Error}

/-- A command starts no log. -/
theorem isRefused_of_command (hcommand : inv.command ≠ none)
    (hload : Profile.load scene.disk (profilePath env inv) = .ok profile)
    (hrefuses : Api.Client.ofBase (inv.resolvedBase profile) = .error cause) :
    IsRefused env inv scene scene profile cause := by
  refine ⟨?_, hload, hrefuses⟩
  rw [logFor, if_neg (by simpa using hcommand)]
  rfl

/-! ### The file of the profile -/

theorem file?_of_save {p : Profile} {disk after : Disk} {path : String}
    (h : p.save disk path = .ok after) : after.file? path = some p.text.toUTF8 := by
  obtain ⟨made, place, -, hcan, rfl⟩ := (Profile.save_eq_ok_iff p disk path after).1 h
  exact Disk.file?_of_write (Disk.write_of_canWrite p.text.toUTF8 hcan)

/-- A profile that cannot be saved fails the program, and its file stays as it was. -/
theorem exists_outcome_saveProfile {path : String} {p : Profile} {scene : Scene}
    (h : ¬CanSave p scene.disk path) :
    ∃ failure after, Attempt.outcome (saveProfile path p) scene = (.error failure, after) ∧
      after.disk.file? path = scene.disk.file? path := by
  rw [outcome_saveProfile_steps]
  cases hmade : scene.disk.makeParents path with
  | error cause => exact ⟨_, _, rfl, rfl⟩
  | ok made =>
    dsimp only
    cases hwrite : made.write path p.text.toUTF8 with
    | error cause =>
      obtain ⟨hold, hnew⟩ := Disk.file?_of_write_error (Disk.makeParents_grows hmade) hwrite
      exact ⟨_, _, rfl, hnew.trans hold.symm⟩
    | ok after =>
      refine absurd ⟨after, ?_⟩ h
      rw [Profile.save, hmade]
      exact hwrite

/-! ### The run -/

/-- What is saved does not depend on the token that was found. -/
theorem remember_resolveSettings (path : String) (found : Option String)
    (hsaves : inv.saveProfile = true) :
    remember inv path (resolveSettings inv profile fun _ => found) =
      saveProfile path (inv.kept profile) := by
  rw [remember, if_pos hsaves]
  rfl

theorem outcome_configure_eq_error {settings : Settings}
    (h : Api.Client.ofBase settings.baseUrl = .error cause) (scene : Scene) :
    Attempt.outcome (configure settings) scene = (.error (refusal cause), scene) := by
  rw [configure, Attempt.outcome_bind, Attempt.outcome_orFail, h]
  rfl

/-- **A run with a base URL that is refused**: the settings are saved, and then it fails. -/
theorem run_of_isRefused {args : List String} (hread : readArgs env args = .ok inv)
    (h : IsRefused env inv scene logged profile cause) :
    ∃ found, (run env args).run scene =
      match Attempt.outcome (remember inv (profilePath env inv)
        (resolveSettings inv profile fun _ => found)) logged with
      | (.ok (), after) => (.exit 1 (refusal cause).text, after)
      | (.error failure, after) => (.exit 1 failure.text, after) := by
  obtain ⟨found, hsettle⟩ := exists_outcome_settle env inv profile logged
  have hrefuses : Api.Client.ofBase (resolveSettings inv profile fun _ => found).baseUrl =
      .error cause := h.refuses
  refine ⟨found, ?_⟩
  rw [run_of_readArgs hread, prepare, Attempt.outcome_bind, h.starts]
  dsimp only
  rw [Attempt.outcome_bind, outcome_loadProfile, h.loads]
  dsimp only [Except.mapError]
  rw [Attempt.outcome_bind, hsettle]
  dsimp only
  rw [Attempt.outcome_bind]
  obtain ⟨result, after⟩ := Attempt.outcome (remember inv (profilePath env inv)
    (resolveSettings inv profile fun _ => found)) logged
  cases result with
  | error failure => rfl
  | ok done =>
    dsimp only
    rw [outcome_configure_eq_error hrefuses]

/-- A run with a base URL that is refused fails, whether it saves or not. -/
theorem exit_of_isRefused {args : List String} (hread : readArgs env args = .ok inv)
    (h : IsRefused env inv scene logged profile cause) :
    (∃ errors, ((run env args).run scene).1 = .exit 1 errors) ∧
      ((run env args).run scene).2.sent = scene.sent := by
  obtain ⟨found, hrun⟩ := run_of_isRefused hread h
  have hlogged := Attempt.sent_outcome (isSilent_logFor env inv) scene
  rw [h.starts] at hlogged
  have hsent := Attempt.sent_outcome (isSilent_remember inv (profilePath env inv)
    (resolveSettings inv profile fun _ => found)) logged
  rw [hlogged] at hsent
  rw [hrun]
  generalize Attempt.outcome _ logged = saved at hsent ⊢
  obtain ⟨result, after⟩ := saved
  cases result with
  | error failure => exact ⟨⟨failure.text, rfl⟩, hsent⟩
  | ok done => exact ⟨⟨(refusal cause).text, rfl⟩, hsent⟩

/-! ### Later runs -/

/-- Every command fails that uses the profile at a path and gives no base URL, and nothing is sent
and nothing changes, unless the settings are saved again. -/
def AlwaysRefused (disk : Disk) (path : String) (cause : Api.Error) : Prop :=
  ∀ env args inv scene, readArgs env args = .ok inv → inv.command ≠ none → inv.baseUrl = none →
    inv.saveProfile = false → profilePath env inv = path → scene.disk = disk →
    (run env args).run scene = (.exit 1 (refusal cause).text, scene)

/-- **A base URL that is remembered is refused every time.** -/
theorem alwaysRefused_of_load {disk : Disk} {path base : String} {p : Profile}
    (hload : Profile.load disk path = .ok p) (hbase : p.baseUrl = some base)
    (hrefuses : Api.Client.ofBase base = .error cause) : AlwaysRefused disk path cause := by
  rintro env args inv scene hread hcommand hnone hkeeps rfl rfl
  have hlater : Api.Client.ofBase (inv.resolvedBase p) = .error cause := by
    rw [Invocation.resolvedBase, hnone, hbase]
    exact hrefuses
  obtain ⟨found, hrun⟩ := run_of_isRefused hread (isRefused_of_command hcommand hload hlater)
  rw [hrun, remember, if_neg (by simp [hkeeps])]
  rfl

/-! ### What is remembered -/

/-- **A base URL that is refused** fails the program, and nothing is sent. The file of the profile is
what it was before exactly if it has the text already that is to be written, or if the profile cannot
be written and starting the log left the file alone. When the profile is written, the base URL is
remembered, and the commands that follow are refused. -/
theorem rejected_profile_iff {args : List String} (hread : readArgs env args = .ok inv)
    (hsaves : inv.saveProfile = true) (h : IsRefused env inv scene logged profile cause) :
    let path := profilePath env inv
    let kept := inv.kept profile
    let final := (run env args).run scene
    (∃ errors, final.1 = .exit 1 errors) ∧ final.2.sent = scene.sent ∧
      (final.2.disk.file? path = scene.disk.file? path ↔
        CanSave kept logged.disk path ∧ scene.disk.file? path = some kept.text.toUTF8 ∨
          ¬CanSave kept logged.disk path ∧ logged.disk.file? path = scene.disk.file? path) ∧
      (CanSave kept logged.disk path → final.1 = .exit 1 (refusal cause).text ∧
        Profile.load final.2.disk path = .ok kept ∧ AlwaysRefused final.2.disk path cause) := by
  intro path kept final
  obtain ⟨hexit, hsent⟩ := exit_of_isRefused hread h
  obtain ⟨found, hrun⟩ := run_of_isRefused hread h
  rw [remember_resolveSettings path found hsaves] at hrun
  refine ⟨hexit, hsent, ?_⟩
  by_cases hcan : CanSave kept logged.disk path
  · obtain ⟨after, hsave⟩ := id hcan
    have houtcome := outcome_saveProfile path kept logged
    rw [hsave] at houtcome
    have hfinal : final = (.exit 1 (refusal cause).text, { logged with disk := after }) := by
      rw [show final = _ from hrun, houtcome]
    have hload := Profile.load_of_save hsave
    rw [hfinal]
    refine ⟨?_, fun _ => ⟨rfl, hload, alwaysRefused_of_load hload rfl h.refuses⟩⟩
    simp only [file?_of_save hsave, hcan, true_and, not_true, false_and, or_false, eq_comm]
  · obtain ⟨failure, after, houtcome, hfile⟩ := exists_outcome_saveProfile hcan
    have hfinal : final = (.exit 1 failure.text, after) := by
      rw [show final = _ from hrun, houtcome]
    rw [hfinal]
    refine ⟨?_, fun hsave => absurd hsave hcan⟩
    simp only [hfile, hcan, false_and, not_false_eq_true, true_and, false_or]

/-- The arguments to list the servers at a base URL that is refused, and to save it. -/
def insecureArgs (path : String) : List String :=
  ["mcpdash", "--profile", path, "--base-url", "http://x.dev", "--token", "sk", "--save-profile",
    "list"]

/-- What these arguments say. -/
def insecure (path : String) : Invocation :=
  ⟨some "http://x.dev", some "sk", none, none, some path, true, some (.list false)⟩

/-- Why no client takes the base URL. -/
def insecureCause : Api.Error :=
  .invalidBaseUrl "non-localhost hosts must use https; got 'http://'"

theorem insecure_isRefused {path : String}
    (hload : Profile.load scene.disk (profilePath ⟨[], none⟩ (insecure path)) = .ok profile) :
    IsRefused ⟨[], none⟩ (insecure path) scene scene profile insecureCause := by
  refine isRefused_of_command nofun hload ?_
  change Api.Client.ofBase "http://x.dev" = _
  decide +kernel

/-- An empty folder, and no server. -/
def emptyScene : Scene :=
  ⟨⟨[], []⟩, [], fun _ => none, [], ""⟩

/-- A path that ends with a slash means a folder, so that nothing can be written there. -/
theorem rejected_profile_iff_folder :
    let final := (run ⟨[], none⟩ (insecureArgs "p.json/")).run emptyScene
    (∃ errors, final.1 = .exit 1 errors) ∧
      final.2.disk.file? "p.json/" = emptyScene.disk.file? "p.json/" := by
  intro final
  have hread : readArgs ⟨[], none⟩ (insecureArgs "p.json/") = .ok (insecure "p.json/") := by
    decide +kernel
  have hpath : profilePath ⟨[], none⟩ (insecure "p.json/") = "p.json/" := by decide +kernel
  have hload : Profile.load emptyScene.disk "p.json/" = .ok .empty := by decide +kernel
  have hcan : ¬CanSave ((insecure "p.json/").kept .empty) emptyScene.disk "p.json/" := by
    rintro ⟨after, hsave⟩
    obtain ⟨made, place, -, ⟨-, -, hfile⟩, -⟩ := (Profile.save_eq_ok_iff _ _ _ _).1 hsave
    have hfolder : Path.meansFolder "p.json/" = true := by decide +kernel
    rw [hfolder] at hfile
    cases hfile
  rw [← hpath] at hload
  obtain ⟨hexit, -, hfile, -⟩ := rejected_profile_iff hread rfl (insecure_isRefused hload)
  rw [hpath] at hfile
  exact ⟨hexit, hfile.2 (.inr ⟨hcan, rfl⟩)⟩

/-- There was no profile, and now there is one with the base URL that was refused. -/
theorem refused_url_saved :
    let final := (run ⟨[], none⟩ (insecureArgs "p.json")).run emptyScene
    final.1 = .exit 1 ("Error: configure API client\n\nCaused by:\n    invalid API base URL: " ++
      "non-localhost hosts must use https; got 'http://'\n") ∧
      emptyScene.disk.file? "p.json" = none ∧
      final.2.disk.file? "p.json" =
        some (Profile.text ⟨some "http://x.dev", none, none⟩).toUTF8 := by
  intro final
  have hread : readArgs ⟨[], none⟩ (insecureArgs "p.json") = .ok (insecure "p.json") := by decide +kernel
  have hpath : profilePath ⟨[], none⟩ (insecure "p.json") = "p.json" := by decide +kernel
  have hload : Profile.load emptyScene.disk "p.json" = .ok .empty := by decide +kernel
  obtain ⟨after, hsave⟩ :
      CanSave ((insecure "p.json").kept .empty) emptyScene.disk "p.json" := by
    have hparent : Path.parent? "p.json" = some "" := by decide +kernel
    have hmade : emptyScene.disk.makeParents "p.json" = .ok emptyScene.disk := by
      rw [Disk.makeParents, hparent]
      rfl
    have hentry : emptyScene.disk.entry? ["p.json"] = none := rfl
    have hcan : emptyScene.disk.CanWrite "p.json" ["p.json"] :=
      ⟨rfl, by simp [hentry], by decide⟩
    exact ⟨_, (Profile.save_eq_ok_iff _ _ _ _).2 ⟨_, _, hmade, hcan, rfl⟩⟩
  have hsaved := outcome_saveProfile "p.json" ((insecure "p.json").kept .empty) emptyScene
  rw [hsave] at hsaved
  rw [← hpath] at hload
  obtain ⟨found, hrun⟩ := run_of_isRefused hread (insecure_isRefused hload)
  rw [remember_resolveSettings _ found rfl, hpath, hsaved] at hrun
  have htext : (refusal insecureCause).text =
      "Error: configure API client\n\nCaused by:\n    invalid API base URL: " ++
        "non-localhost hosts must use https; got 'http://'\n" := by
    decide +kernel
  rw [show final = _ from hrun]
  exact ⟨congrArg (Ending.exit 1) htext, by decide +kernel, file?_of_save hsave⟩

end McpConsole.CommandLine
