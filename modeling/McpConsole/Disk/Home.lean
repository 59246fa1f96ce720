import McpConsole.Disk.Path
import McpConsole.Text.Blank

/-!
# Places named by the environment

What the system says of itself and of the user: the variables of the environment, the home folder,
the folders for settings and data, and paths that begin with a tilde. The home folder is the one that
a variable names, or else the one that the password database has for the user's account.
-/

namespace McpConsole

open McpConsole.Text

/-- What the system says of itself and of the user. -/
structure Environment where
  /-- The variables with their values. -/
  settings : List (String × String) := []
  /-- The home folder that the password database has for the user's account, if it has one. -/
  account : Option String := none

/-- Variables are an environment without a password database. -/
instance : Coe (List (String × String)) Environment :=
  ⟨fun settings => ⟨settings, none⟩⟩

namespace Environment

/-- The value of a variable. -/
def get? (env : Environment) (name : String) : Option String :=
  env.settings.lookup name

/-- The home folder: the one that the variable names, or else that of the user's account. An empty
text names no folder. -/
def home? (env : Environment) : Option String :=
  let named (folder : Option String) := folder.filter fun folder => !folder.isEmpty
  (named (env.get? "HOME")).or (named env.account)

/-- The folder that a variable names, if it is absolute, otherwise one below the home folder. -/
def folder? (env : Environment) (setting fallback : String) : Option String :=
  ((env.get? setting).filter Path.isAbsolute).or
    (env.home?.map fun home => Path.join home fallback)

/-- A file of this program below one of the folders, or below the present folder. -/
def ownFile (folder : Option String) (name : String) : String :=
  Path.join (Path.join (folder.getD ".") "mcpdash") name

/-- A file of this program for settings. -/
def configFile (env : Environment) (name : String) : String :=
  ownFile (env.folder? "XDG_CONFIG_HOME" ".config") name

/-- A file of this program for data. -/
def dataFile (env : Environment) (name : String) : String :=
  ownFile (env.folder? "XDG_DATA_HOME" ".local/share") name

/-- What follows a leading tilde and a slash in a path, if it has one. -/
def afterTilde? : List Char → Option (List Char)
  | ['~'] => some []
  | '~' :: '/' :: rest => some rest
  | '~' :: '\\' :: rest => some rest
  | _ => none

/-- A path without blanks around it, with the home folder for a leading tilde. -/
def expandTilde (env : Environment) (path : String) : String :=
  let path := trim path.toList
  match afterTilde? path, env.home? with
  | some [], some home => home
  | some rest, some home => Path.join home (String.ofList rest)
  | _, _ => String.ofList path

end Environment

end McpConsole
