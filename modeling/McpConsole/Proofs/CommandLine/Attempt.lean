import McpConsole.CommandLine.Command
import McpConsole.Program.Scene

/-!
# What an attempt comes to

An attempt is played step by step: a step that fails is the last one, and the scene stays as that
step left it (`outcome_bind`). A script is silent if it sends nothing, whatever it is answered, and
all that the program does before a command is silent (`isSilent_prepare`). So a run of the program
(`run_of_readArgs`) sends what its command sends.
-/

namespace McpConsole

open McpConsole.Program

/-! ### Scripts -/

namespace Program.Script

variable {α β : Type}

theorem run_bind (script : Script α) (next : α → Script β) (scene : Scene) :
    (script.bind next).run scene = (next (script.run scene).1).run (script.run scene).2 := by
  induction script generalizing scene with
  | done result => rfl
  | readText path rest ih => exact ih _ scene
  | makeParents path rest ih => exact ih _ _
  | write path content rest ih => exact ih _ _
  | readLine rest ih => exact ih _ _
  | print text rest ih => exact ih _
  | send request rest ih => exact ih _ _

/-- A script that sends nothing. -/
def IsSilent : Script α → Prop
  | .done _ => True
  | .readText _ next => ∀ text, (next text).IsSilent
  | .makeParents _ next => ∀ made, (next made).IsSilent
  | .write _ _ next => ∀ written, (next written).IsSilent
  | .readLine next => ∀ line, (next line).IsSilent
  | .print _ next => next.IsSilent
  | .send _ _ => False

theorem isSilent_bind {script : Script α} {next : α → Script β} (h : script.IsSilent)
    (hnext : ∀ a, (next a).IsSilent) : (script.bind next).IsSilent := by
  induction script with
  | done result => exact hnext result
  | readText path rest ih => exact fun text => ih text (h text)
  | makeParents path rest ih => exact fun made => ih made (h made)
  | write path content rest ih => exact fun written => ih written (h written)
  | readLine rest ih => exact fun line => ih line (h line)
  | print text rest ih => exact ih h
  | send request rest ih => exact h.elim

theorem sent_change (scene : Scene) (changed : Except DiskError Disk) :
    (scene.change changed).2.sent = scene.sent := by
  cases changed <;> rfl

/-- **A silent script sends nothing.** -/
theorem sent_run {script : Script α} (h : script.IsSilent) (scene : Scene) :
    (script.run scene).2.sent = scene.sent := by
  induction script generalizing scene with
  | done result => rfl
  | readText path rest ih => exact ih _ (h _) scene
  | makeParents path rest ih => exact (ih _ (h _) _).trans (sent_change scene _)
  | write path content rest ih => exact (ih _ (h _) _).trans (sent_change scene _)
  | readLine rest ih => exact ih _ (h _) _
  | print text rest ih => exact ih h _
  | send request rest ih => exact h.elim

end Program.Script

namespace CommandLine

/-! ### Attempts -/

namespace Attempt

variable {α β ε : Type}

/-- What an attempt comes to in a scene, and the scene after it. -/
def outcome (attempt : Attempt α) (scene : Scene) : Except Failure α × Scene :=
  Script.run attempt.run scene

theorem outcome_pure (a : α) (scene : Scene) :
    outcome (pure a : Attempt α) scene = (.ok a, scene) := rfl

/-- **A step that fails is the last one.** -/
theorem outcome_bind (attempt : Attempt α) (next : α → Attempt β) (scene : Scene) :
    outcome (attempt >>= next) scene =
      match outcome attempt scene with
      | (.ok a, after) => outcome (next a) after
      | (.error failure, after) => (.error failure, after) := by
  have hrun := Script.run_bind attempt.run (ExceptT.bindCont next) scene
  refine Eq.trans hrun ?_
  unfold outcome
  obtain ⟨result, after⟩ := Script.run attempt.run scene
  cases result with
  | error failure => rfl
  | ok a => rfl

/-- What was tried to the end went well step by step. -/
theorem exists_of_outcome_bind {attempt : Attempt α} {next : α → Attempt β} {scene after : Scene}
    {b : β} (h : outcome (attempt >>= next) scene = (.ok b, after)) :
    ∃ a mid, outcome attempt scene = (.ok a, mid) ∧ outcome (next a) mid = (.ok b, after) := by
  rw [outcome_bind] at h
  split at h
  · rename_i a mid hattempt
    exact ⟨a, mid, hattempt, h⟩
  · cases h

theorem outcome_ofScript (script : Script α) (scene : Scene) :
    outcome (ofScript script) scene = (.ok (script.run scene).1, (script.run scene).2) :=
  Script.run_bind script _ scene

theorem outcome_orFail (failure : ε → Failure) (result : Except ε α) (scene : Scene) :
    outcome (orFail failure result) scene = (result.mapError failure, scene) := rfl

theorem outcome_say (text : String) (scene : Scene) :
    outcome (say text) scene = (.ok (), { scene with printed := scene.printed ++ text }) := rfl

/-- How the program ends. -/
theorem run_ending (attempt : Attempt Ending) (scene : Scene) :
    attempt.ending.run scene =
      match outcome attempt scene with
      | (.ok ending, after) => (ending, after)
      | (.error failure, after) => (.exit 1 failure.text, after) := by
  refine (Script.run_bind attempt.run _ scene).trans ?_
  unfold outcome
  obtain ⟨result, after⟩ := Script.run attempt.run scene
  cases result with
  | error failure => rfl
  | ok ending => rfl

/-- An attempt that sends nothing. -/
def IsSilent (attempt : Attempt α) : Prop :=
  Script.IsSilent attempt.run

theorem sent_outcome {attempt : Attempt α} (h : attempt.IsSilent) (scene : Scene) :
    (outcome attempt scene).2.sent = scene.sent :=
  Script.sent_run h scene

theorem isSilent_bind {attempt : Attempt α} {next : α → Attempt β} (h : attempt.IsSilent)
    (hnext : ∀ a, (next a).IsSilent) : (attempt >>= next).IsSilent := by
  change (Script.bind attempt.run (ExceptT.bindCont next)).IsSilent
  refine Script.isSilent_bind h fun result => ?_
  cases result with
  | error failure => trivial
  | ok a => exact hnext a

theorem isSilent_ofScript {script : Script α} (h : script.IsSilent) : (ofScript script).IsSilent :=
  Script.isSilent_bind h fun _ => trivial

theorem isSilent_orFail (failure : ε → Failure) (result : Except ε α) :
    (orFail failure result).IsSilent := trivial

end Attempt

/-! ### Before a command -/

open Attempt

theorem isSilent_discover (env : Environment) (baseUrl : String) :
    (Credential.discover env baseUrl).IsSilent := by
  unfold Credential.discover
  split
  · trivial
  · split
    · exact fun _ => trivial
    · trivial

theorem isSilent_makeLogFolder (path : String) : (makeLogFolder path).IsSilent := by
  unfold makeLogFolder
  split
  · trivial
  · exact isSilent_bind (isSilent_ofScript fun _ => trivial) fun _ => isSilent_orFail _ _

theorem isSilent_startLog (env : Environment) : (startLog env).IsSilent :=
  isSilent_bind (isSilent_makeLogFolder _) fun _ =>
    isSilent_bind (isSilent_ofScript fun _ => trivial) fun _ => isSilent_orFail _ _

theorem isSilent_loadProfile (path : String) : (loadProfile path).IsSilent :=
  isSilent_bind (isSilent_ofScript fun _ => trivial) fun _ => isSilent_orFail _ _

theorem isSilent_saveProfile (path : String) (profile : Profile) :
    (saveProfile path profile).IsSilent :=
  isSilent_bind (isSilent_ofScript fun _ => trivial) fun _ =>
    isSilent_bind (isSilent_orFail _ _) fun _ =>
      isSilent_bind (isSilent_ofScript fun _ => trivial) fun _ => isSilent_orFail _ _

theorem isSilent_settle (env : Environment) (inv : Invocation) (profile : Profile) :
    (settle env inv profile).IsSilent := by
  refine isSilent_bind (isSilent_ofScript ?_) fun _ => trivial
  split
  · trivial
  · exact isSilent_discover env _

theorem isSilent_logFor (env : Environment) (inv : Invocation) : (logFor env inv).IsSilent := by
  unfold logFor
  split
  · exact isSilent_startLog env
  · trivial

theorem isSilent_remember (inv : Invocation) (path : String) (settings : Settings) :
    (remember inv path settings).IsSilent := by
  unfold remember
  split
  · exact isSilent_saveProfile path settings.profile
  · trivial

theorem isSilent_configure (settings : Settings) : (configure settings).IsSilent :=
  isSilent_bind (isSilent_orFail _ _) fun _ => trivial

/-- **Nothing is sent before a command.** -/
theorem isSilent_prepare (env : Environment) (inv : Invocation) : (prepare env inv).IsSilent :=
  isSilent_bind (isSilent_logFor env inv) fun _ =>
    isSilent_bind (isSilent_loadProfile _) fun profile =>
      isSilent_bind (isSilent_settle env inv profile) fun settings =>
        isSilent_bind (isSilent_remember inv _ settings) fun _ => isSilent_configure settings

/-- **A run of the program** for arguments that can be read: what comes before the command, and then
the command. -/
theorem run_of_readArgs {env : Environment} {args : List String} {inv : Invocation}
    (h : readArgs env args = .ok inv) (scene : Scene) :
    (run env args).run scene =
      match outcome (prepare env inv) scene with
      | (.ok (session, client), after) => (carryOut client session inv.command).ending.run after
      | (.error failure, after) => (.exit 1 failure.text, after) := by
  rw [run, h]
  dsimp only
  rw [run_ending, execute, outcome_bind]
  obtain ⟨result, after⟩ := outcome (prepare env inv) scene
  cases result with
  | error failure => rfl
  | ok prepared => exact (run_ending _ after).symm

end CommandLine

end McpConsole
