import McpConsole.Api.Call
import McpConsole.CommandLine.Failure
import McpConsole.CommandLine.Settings
import McpConsole.CommandLine.Table
import McpConsole.Credential.Discovery

/-!
# The program

What the program does with its arguments: it reads the profile, works out its settings, saves them
if it is asked to, and carries out the command. Without a command it prepares a log file and hands
the settings over to the console.
-/

namespace McpConsole.CommandLine

open McpConsole.Program
open McpConsole.Text

/-- How the program ends: with an exit code and a text for the error output, or in the console. -/
inductive Ending where
  | exit (code : Nat) (errors : String)
  | console (session : Session) (client : Api.Client)
  deriving DecidableEq, Repr

/-- A script that can fail. -/
abbrev Attempt (α : Type) := ExceptT Failure Script α

/-- A script that cannot fail, as an attempt. -/
def Attempt.ofScript {α : Type} (script : Script α) : Attempt α :=
  ExceptT.mk (script.bind fun result => .done (.ok result))

/-- What was tried, with a failure for its error. -/
def Attempt.orFail {α ε : Type} (failure : ε → Failure) (result : Except ε α) : Attempt α :=
  ExceptT.mk (.done (result.mapError failure))

/-- The setting that names the log file. -/
def logSetting : String := "MCPDASH_LOG_PATH"

/-- The path of the log file. -/
def logPath (env : Environment) : String :=
  match trimmedNonBlank (env.get? logSetting) with
  | some path => env.expandTilde path
  | none => env.dataFile "tui.log"

/-- Makes the folders above the log file. -/
def makeLogFolder (path : String) : Attempt Unit :=
  match Path.parent? path with
  | none => return ()
  | some parent => do
    let made ← .ofScript (.makeParents path .done)
    Attempt.orFail (Failure.ofDisk ("create log directory " ++ parent)) made

/-- Makes an empty log file, with the folders above it. -/
def startLog (env : Environment) : Attempt Unit := do
  let path := logPath env
  makeLogFolder path
  let written ← .ofScript (.write path "" .done)
  Attempt.orFail (Failure.ofDisk ("create log file " ++ path)) written

/-- The path of the profile. -/
def profilePath (env : Environment) (inv : Invocation) : String :=
  match inv.profile with
  | some path => env.expandTilde path
  | none => Profile.defaultPath env

/-- Reads the profile. -/
def loadProfile (path : String) : Attempt Profile := do
  let text ← .ofScript (.readText path .done)
  Attempt.orFail (Failure.ofProfile ("load profile " ++ path)) (Profile.ofRead text)

/-- Writes a profile. -/
def saveProfile (path : String) (profile : Profile) : Attempt Unit := do
  let failure := Failure.ofProfile ("save profile " ++ path)
  let made ← .ofScript (.makeParents path .done)
  Attempt.orFail failure made
  let written ← .ofScript (.write path profile.text .done)
  Attempt.orFail failure written

/-- Works out the settings. An access token is looked for only if none was given. -/
def settle (env : Environment) (inv : Invocation) (profile : Profile) : Attempt Settings := do
  let found ← .ofScript
    (match inv.token with
     | some _ => .done none
     | none => Credential.discover env (inv.resolvedBase profile))
  return resolveSettings inv profile fun _ => found

/-- The access token of a session. -/
def requireCredential (session : Session) : Attempt String :=
  Attempt.orFail id <|
    match session.credential with
    | some credential => .ok credential
    | none =>
      .error (.plain ("missing access token; pass --token or set " ++ Credential.keySetting))

/-- Carries out a call. -/
def perform (client : Api.Client) (credential : String) (call : Api.Call) :
    Script (Except Api.Error Api.Answer) :=
  match client.outgoing credential call with
  | .error cause => .done (.error cause)
  | .ok request =>
    .send request fun
      | none => .done (.error .transport)
      | some response => .done (call.result response)

/-- Prints a text. -/
def say (text : String) : Attempt Unit :=
  .ofScript (.print text (.done ()))

/-- What is printed for servers. -/
def listing (json : Bool) (servers : List Server) : String :=
  if json then (Json.Value.array (servers.map Server.toValue)).prettyText
  else renderTable servers

/-- Prints all servers. -/
def listServers (client : Api.Client) (session : Session) (json : Bool) : Attempt Unit := do
  let credential ← requireCredential session
  let result ← .ofScript (perform client credential .list)
  match ← Attempt.orFail (Failure.ofCall "fetch MCP servers") result with
  | .servers servers => say (listing json servers ++ "\n")
  | _ => return ()

/-- Whether an answer to a question means yes. -/
def isYes (answer : String) : Bool :=
  let word := lowercase (trimmed answer)
  word == "y" || word == "yes"

/-- Asks a question. -/
def confirm (question : String) : Attempt Bool := do
  say question
  let answer ← .ofScript (.readLine .done)
  return isYes answer

/-- Fails unless the user of a session may delete. -/
def requireAdmin (session : Session) : Attempt Unit :=
  if session.isAdmin then return ()
  else throw (.plain "deleting MCP servers requires an admin role")

/-- Whether a server is to be deleted. It is asked for unless it was said already. -/
def agree (id : String) (yes : Bool) : Attempt Bool :=
  if yes then return true
  else confirm ("Delete MCP server " ++ id ++ "? [y/N] ")

/-- Has a server deleted. -/
def sendDeletion (client : Api.Client) (credential id : String) : Attempt Unit := do
  let result ← .ofScript (perform client credential (.delete id))
  let _ ← Attempt.orFail (Failure.ofCall ("delete MCP server " ++ id)) result
  say "MCP Server deleted successfully\n"

/-- Deletes a server, if the user may and agrees. -/
def deleteServer (client : Api.Client) (session : Session) (id : String) (yes : Bool) :
    Attempt Unit := do
  let credential ← requireCredential session
  requireAdmin session
  let agreed ← agree id yes
  if agreed then sendDeletion client credential id
  else say "Aborted.\n"

/-- Starts the log of the console, which no command needs. -/
def logFor (env : Environment) (inv : Invocation) : Attempt Unit :=
  if inv.command.isNone then startLog env else return ()

/-- Saves the settings, if that is asked for. -/
def remember (inv : Invocation) (path : String) (settings : Settings) : Attempt Unit :=
  if inv.saveProfile then saveProfile path settings.profile else return ()

/-- The session and the client for settings. -/
def configure (settings : Settings) : Attempt (Session × Api.Client) := do
  let client ← Attempt.orFail (fun error => ⟨"configure API client", [error.message]⟩)
    (Api.Client.ofBase settings.baseUrl)
  return (settings.session, client)

/-- What comes before a command: the session and the client that it works with. -/
def prepare (env : Environment) (inv : Invocation) : Attempt (Session × Api.Client) := do
  logFor env inv
  let path := profilePath env inv
  let profile ← loadProfile path
  let settings ← settle env inv profile
  remember inv path settings
  configure settings

/-- Carries out a command, or hands over to the console without one. -/
def carryOut (client : Api.Client) (session : Session) : Option Command → Attempt Ending
  | none => return .console session client
  | some (.list json) => do
    listServers client session json
    return .exit 0 ""
  | some (.delete id yes) => do
    deleteServer client session id yes
    return .exit 0 ""

/-- What the program does with what it was asked for. -/
def execute (env : Environment) (inv : Invocation) : Attempt Ending := do
  let (session, client) ← prepare env inv
  carryOut client session inv.command

/-- How the program ends with what was tried. -/
def Attempt.ending (attempt : Attempt Ending) : Script Ending :=
  attempt.run.bind fun
    | .ok ending => .done ending
    | .error failure => .done (.exit 1 failure.text)

/-- What `--version` prints. -/
def versionText : String := "mcpdash 0.1.0\n"

/-- What `--help` prints. -/
def helpText : String :=
  "Administer MCP servers registered with the management API\n\n" ++
  "Usage: mcpdash [OPTIONS] [COMMAND]\n\n" ++
  "Commands:\n" ++
  "  list    Print the registered MCP servers\n" ++
  "  delete  Delete one MCP server\n" ++
  "  help    Print this message\n\n" ++
  "Options:\n" ++
  "      --base-url <BASE_URL>  Base URL of the management API\n" ++
  "      --token <TOKEN>        Access token (falls back to ~/.netrc)\n" ++
  "      --role <ROLE>          Role of the caller, e.g. proxy_admin or internal_user\n" ++
  "      --user-id <USER_ID>    User of the caller\n" ++
  "      --profile <PROFILE>    Profile file remembering base URL, role and user id\n" ++
  "      --save-profile         Write the resolved base URL, role and user id to the profile\n" ++
  "  -h, --help                 Print help\n" ++
  "  -V, --version              Print version\n"

/-- The text for arguments that are refused. -/
def UsageError.text : UsageError → String
  | .unknownArgument => "error: unexpected argument\n"
  | .invalidSubcommand => "error: unrecognized subcommand\n"
  | .invalidValue => "error: a value is missing or invalid\n"
  | .argumentConflict => "error: an argument cannot be used more than once\n"
  | .missingRequiredArgument => "error: a required argument was not given\n"
  | .tooManyValues => "error: an argument takes no value\n"
  | .displayHelp => helpText
  | .displayVersion => versionText

/-- The whole program. Its arguments begin with its name. -/
def run (env : Environment) (args : List String) : Script Ending :=
  match readArgs env args with
  | .error .displayHelp => .print helpText (.done (.exit 0 ""))
  | .error .displayVersion => .print versionText (.done (.exit 0 ""))
  | .error error => .done (.exit 2 error.text)
  | .ok inv => (execute env inv).ending

end McpConsole.CommandLine
