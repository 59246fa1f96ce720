import McpConsole.Disk.Home

/-!
# Arguments

The command line has up to two levels: the options of the program, and a command with options of
its own. The options that have a value, and the one that saves the profile, are allowed on both
levels. What is not given by an argument is taken from the environment.

Arguments are read from left to right. An option without a value attached to it takes the next
argument, unless that begins with a hyphen. An option is only judged when the next one comes or the
level ends, so that an unknown option is reported before a missing value.
-/

namespace McpConsole.CommandLine

open McpConsole.Text

/-- Why arguments are refused, or what they ask for instead of running. -/
inductive UsageError where
  | unknownArgument
  | invalidSubcommand
  | invalidValue
  | argumentConflict
  | missingRequiredArgument
  | tooManyValues
  | displayHelp
  | displayVersion
  deriving DecidableEq, Repr

/-- Where in the command line an argument stands. -/
inductive Level where
  | program
  | list
  | delete
  deriving DecidableEq, Repr

/-- The options with a value. -/
inductive Setting where
  | baseUrl
  | token
  | role
  | userId
  | profile
  deriving DecidableEq, Repr

namespace Setting

/-- All options with a value. -/
def all : List Setting :=
  [.baseUrl, .token, .role, .userId, .profile]

/-- The name of an option. -/
def name : Setting → String
  | .baseUrl => "base-url"
  | .token => "token"
  | .role => "role"
  | .userId => "user-id"
  | .profile => "profile"

/-- The variable of the environment that stands in for an option. -/
def environmentName : Setting → String
  | .baseUrl => "MCPDASH_API_BASE"
  | .token => "MCPDASH_API_KEY"
  | .role => "MCPDASH_USER_ROLE"
  | .userId => "MCPDASH_USER_ID"
  | .profile => "MCPDASH_PROFILE_PATH"

/-- Whether a text can be the value of an option. Only a path must not be empty. -/
def allows (setting : Setting) (value : String) : Bool :=
  setting != .profile || !value.isEmpty

end Setting

/-- The options without a value. -/
inductive Flag where
  | saveProfile
  | json
  | yes
  | help
  | version
  deriving DecidableEq, Repr

/-- The options without a value on a level, by name. -/
def Level.flags : Level → List (String × Flag)
  | .program => [("save-profile", .saveProfile), ("help", .help), ("version", .version)]
  | .list => [("save-profile", .saveProfile), ("help", .help), ("json", .json)]
  | .delete => [("save-profile", .saveProfile), ("help", .help), ("yes", .yes)]

/-- The options of one letter on a level. -/
def Level.letters : Level → List (Char × Flag)
  | .program => [('h', .help), ('V', .version)]
  | _ => [('h', .help)]

/-- What is given on one level. -/
structure Given where
  settings : List (Setting × String)
  flags : List Flag
  id : Option String
  deriving DecidableEq, Repr, Inhabited

/-- What has been read but not judged yet. -/
inductive Pending where
  | setting (setting : Setting) (value : Option String)
  | id (value : String)
  deriving DecidableEq, Repr

/-- How far the arguments of a level have been read. -/
structure Scan where
  level : Level
  given : Given
  pending : Option Pending
  /-- Whether everything is taken as it is, because two hyphens alone have come. -/
  isTrailing : Bool
  /-- Whether an identifier has been read. -/
  hasId : Bool
  deriving DecidableEq, Repr

namespace Scan

/-- The beginning of a level. -/
def start (level : Level) : Scan :=
  ⟨level, default, none, false, false⟩

/-- Takes a value for an option. -/
def give (scan : Scan) (setting : Setting) (value : String) : Except UsageError Scan :=
  if (scan.given.settings.lookup setting).isSome then .error .argumentConflict
  else if setting.allows value then
    .ok { scan with given.settings := scan.given.settings ++ [(setting, value)] }
  else .error .invalidValue

/-- Judges what has been read before. -/
def settle (scan : Scan) : Except UsageError Scan :=
  let settled := { scan with pending := none }
  match scan.pending with
  | none => .ok settled
  | some (.setting _ none) => .error .invalidValue
  | some (.setting setting (some value)) => settled.give setting value
  | some (.id value) => .ok { settled with given.id := some value }

/-- Whether the next argument can be the value of the option before it. -/
def awaitsValue (scan : Scan) : Bool :=
  match scan.pending with
  | some (.setting _ none) => !scan.isTrailing
  | _ => false

/-- Takes an option without a value. -/
def raise (scan : Scan) (flag : Flag) : Except UsageError Scan := do
  let scan ← scan.settle
  if flag = .help then .error .displayHelp
  else if flag = .version then .error .displayVersion
  else if scan.given.flags.contains flag then .error .argumentConflict
  else .ok { scan with given.flags := scan.given.flags ++ [flag] }

/-- The name of a long option, and the value attached to it. -/
def splitLong (arg : List Char) : String × Option String :=
  let name := arg.takeWhile (· != '=')
  let rest := arg.drop name.length
  (String.ofList name, if rest.isEmpty then none else some (String.ofList (rest.drop 1)))

/-- Takes an option that begins with two hyphens, which are left out here. -/
def long (scan : Scan) (arg : List Char) : Except UsageError Scan := do
  let (name, value) := splitLong arg
  match Setting.all.find? (fun setting => setting.name == name), scan.level.flags.lookup name with
  | some setting, _ =>
    let scan ← scan.settle
    match value with
    | some value => scan.give setting value
    | none => .ok { scan with pending := some (.setting setting none) }
  | none, some flag => if value.isSome then .error .tooManyValues else scan.raise flag
  | none, none => .error .unknownArgument

/-- Takes an option that begins with one hyphen, given its first letter. -/
def short (scan : Scan) (letter : Char) : Except UsageError Scan :=
  match scan.level.letters.lookup letter with
  | some flag => scan.raise flag
  | none => .error .unknownArgument

/-- The commands of the program; `help` explains the others. -/
def commands : List String :=
  ["list", "delete", "help"]

/-- Takes an argument that is no option and no value. -/
def positional (scan : Scan) (arg : String) : Except UsageError Scan :=
  match scan.level with
  | .program =>
    .error (if scan.isTrailing && commands.contains arg then .unknownArgument
      else .invalidSubcommand)
  | .list => .error .unknownArgument
  | .delete =>
    if scan.hasId then .error .unknownArgument
    else do
      let scan ← scan.settle
      .ok { scan with pending := some (.id arg), hasId := true }

/-- Takes one argument. -/
def take (scan : Scan) (arg : String) : Except UsageError Scan :=
  if scan.isTrailing then scan.positional arg
  else
    match arg.toList with
    | ['-', '-'] => .ok { scan with isTrailing := true }
    | '-' :: '-' :: rest => scan.long rest
    | '-' :: letter :: _ => scan.short letter
    | _ =>
      match scan.pending with
      | some (.setting setting none) =>
        .ok { scan with pending := some (.setting setting (some arg)) }
      | _ => scan.positional arg

/-- Takes a value from the environment for an option that is not given. -/
def giveFrom (env : Environment) (scan : Scan) (setting : Setting) : Except UsageError Scan :=
  match scan.given.settings.lookup setting, env.get? setting.environmentName with
  | none, some value => if setting.allows value then .ok scan else .error .invalidValue
  | _, _ => .ok scan

/-- What is given on a level, at its end. The environment is looked at here, but used only when
the levels are joined. -/
def finish (env : Environment) (scan : Scan) : Except UsageError Given := do
  let scan ← scan.settle
  let _ ← Setting.all.foldlM (giveFrom env) scan
  if scan.level = .delete ∧ scan.given.id.isNone then .error .missingRequiredArgument
  else .ok scan.given

end Scan

/-- What is given on a level by all remaining arguments. -/
def readLevel (env : Environment) (scan : Scan) (args : List String) : Except UsageError Given := do
  let scan ← args.foldlM Scan.take scan
  scan.finish env

/-- The end of the arguments after `help`: the name of a command, or nothing. -/
def readHelp : List String → UsageError
  | [] => .displayHelp
  | [name] => if Scan.commands.contains name then .displayHelp else .invalidSubcommand
  | _ => .invalidSubcommand

/-- The command that an argument names, if a command can stand there. -/
def commandLevel? (scan : Scan) (arg : String) : Option Level :=
  if scan.isTrailing || scan.awaitsValue then none
  else if arg = "list" then some .list
  else if arg = "delete" then some .delete
  else none

/-- What is given on the level of the program, and on the level of a command if there is one. The
level of the command is judged first. -/
def readProgram (env : Environment) (scan : Scan) :
    List String → Except UsageError (Given × Option (Level × Given))
  | [] => do
    let given ← scan.finish env
    return (given, none)
  | arg :: rest =>
    match commandLevel? scan arg with
    | some level => do
      let inner ← readLevel env (.start level) rest
      let given ← scan.finish env
      return (given, some (level, inner))
    | none =>
      if arg = "help" && !scan.isTrailing && !scan.awaitsValue then .error (readHelp rest)
      else do
        let scan ← scan.take arg
        readProgram env scan rest

/-! ### What is asked for -/

/-- What the program is to do; without a command it shows the console. -/
inductive Command where
  | list (json : Bool)
  | delete (id : String) (yes : Bool)
  deriving DecidableEq, Repr

/-- What the arguments and the environment say. -/
structure Invocation where
  baseUrl : Option String
  token : Option String
  role : Option String
  userId : Option String
  profile : Option String
  saveProfile : Bool
  command : Option Command
  deriving DecidableEq, Repr, Inhabited

/-- The value of an option: given with the command, given before it, or from the environment. -/
def settingOf (env : Environment) (outer : Given) (inner : Option Given) (setting : Setting) :
    Option String :=
  ((inner.bind fun given => given.settings.lookup setting).or
    (outer.settings.lookup setting)).or (env.get? setting.environmentName)

/-- The command of a level. -/
def commandOf (level : Level) (given : Given) : Option Command :=
  match level with
  | .program => none
  | .list => some (.list (given.flags.contains .json))
  | .delete => some (.delete (given.id.getD "") (given.flags.contains .yes))

/-- What the arguments and the environment say. The arguments begin with the name of the
program. -/
def readArgs (env : Environment) (args : List String) : Except UsageError Invocation := do
  let (outer, command) ← readProgram env (.start .program) (args.drop 1)
  let inner := command.map Prod.snd
  let value := settingOf env outer inner
  return {
    baseUrl := value .baseUrl
    token := value .token
    role := value .role
    userId := value .userId
    profile := value .profile
    saveProfile := (outer.flags ++ (inner.map Given.flags).getD []).contains .saveProfile
    command := command.bind fun (level, given) => commandOf level given }

end McpConsole.CommandLine
