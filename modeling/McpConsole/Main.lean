import McpConsole.CommandLine.Command
import McpConsole.Console.Draw.Screen
import McpConsole.Console.Process

/-!
# The executable

What stands outside of the library: files, standard input and output, and the environment. Scripts
are played against them. There is no network here, so requests get no answer, and no clipboard, and
the password database is not asked for the home folder.

The console is drawn on standard output and takes its keys from lines of standard input: a line is
the name of a key, or else every character of it is a key.
-/

namespace McpConsole

open McpConsole.Console

/-- The variables of the environment that the program reads. -/
def settingNames : List String :=
  ["HOME", "XDG_CONFIG_HOME", "XDG_DATA_HOME", "MCPDASH_API_BASE", "MCPDASH_API_KEY",
   "MCPDASH_USER_ROLE", "MCPDASH_USER_ID", "MCPDASH_PROFILE_PATH", "MCPDASH_LOG_PATH",
   "MCPDASH_THEME"]

/-- Reads the environment. -/
def readEnvironment : IO Environment := do
  let values ← settingNames.mapM fun name => do
    let value ← IO.getEnv name
    return value.map fun value => (name, value)
  return ⟨values.filterMap id, none⟩

/-- The cause of an error of the system. -/
def DiskError.ofSystem : IO.Error → DiskError
  | .alreadyExists .. => .exists
  | .inappropriateType .. => .isAFolder
  | .invalidArgument .. => .notAFolder
  | _ => .notFound

/-- Does something with files, and gives the cause if it fails. -/
def onDisk {α : Type} (action : IO α) : IO (Except DiskError α) := do
  match ← action.toBaseIO with
  | .ok result => return .ok result
  | .error error => return .error (.ofSystem error)

/-- Reads a file that holds text. -/
def readTextFile (path : String) : IO (Except DiskError String) := do
  match ← onDisk (IO.FS.readBinFile path) with
  | .error cause => return .error cause
  | .ok content =>
    match String.fromUTF8? content with
    | some text => return .ok text
    | none => return .error .notText

/-- Makes the folders above a path. -/
def makeFolders (path : String) : IO (Except DiskError Unit) :=
  match Path.parent? path with
  | some parent => if parent.isEmpty then return .ok () else onDisk (IO.FS.createDirAll parent)
  | none => return .ok ()

namespace Program.Script

/-- Plays a script against files and standard input and output. -/
def play {α : Type} : Script α → IO α
  | .done result => return result
  | .readText path next => do (next (← readTextFile path)).play
  | .makeParents path next => do (next (← makeFolders path)).play
  | .write path content next => do (next (← onDisk (IO.FS.writeFile path content))).play
  | .readLine next => do (next (← (← IO.getStdin).getLine)).play
  | .print text next => do
    IO.print text
    (← IO.getStdout).flush
    next.play
  | .send _ next => (next none).play

end Program.Script

/-- The keys that a line can name. -/
def namedKeys : List (String × KeyPress) :=
  [("", ⟨.enter, false⟩), ("esc", ⟨.escape, false⟩), ("tab", ⟨.tab, false⟩),
   ("backtab", ⟨.backTab, false⟩), ("up", ⟨.up, false⟩), ("down", ⟨.down, false⟩),
   ("left", ⟨.left, false⟩), ("right", ⟨.right, false⟩), ("home", ⟨.home, false⟩),
   ("end", ⟨.toEnd, false⟩), ("backspace", ⟨.backspace, false⟩), ("delete", ⟨.delete, false⟩),
   ("ctrl+s", ⟨.char 's', true⟩), ("ctrl+y", ⟨.char 'y', true⟩)]

/-- The keys of a line. -/
def keysOfLine (line : String) : List KeyPress :=
  match namedKeys.lookup line with
  | some press => [press]
  | none => line.toList.map fun c => ⟨.char c, false⟩

/-- Carries out calls, and the calls that their outcomes lead to. -/
partial def answerCalls (client : Api.Client) (s : State) : List Issued → IO State
  | [] => return s
  | call :: calls => do
    let result ← (CommandLine.perform client call.credential call.call).play
    let (s, effects) := s.deliver (call.outcome result) (!calls.isEmpty)
    let (s, more) := s.process noClipboard effects
    answerCalls client s (calls ++ more)

/-- Presses keys one after the other. -/
def pressKeys (client : Api.Client) (s : State) (keys : List KeyPress) : IO State :=
  keys.foldlM (fun s press =>
    let (s, issued) := s.respond noClipboard (.key press)
    answerCalls client s issued) s

/-- Prints the screen. -/
def printScreen (canvas : Screen.Canvas) : IO Unit :=
  (List.range canvas.height).forM fun y => do
    let cells := canvas.cells.extract (y * canvas.width) ((y + 1) * canvas.width)
    IO.println ("".intercalate (cells.toList.map Screen.Cell.symbol))

/-- A line of input without its end. -/
def withoutEnd (line : String) : String :=
  String.ofList (line.toList.filter fun c => c != '\n' && c != '\r')

/-- Shows the console until it is left or the input ends. -/
partial def converse (client : Api.Client) (s : State) : IO Unit := do
  let (s, picture) := s.render 120 30
  printScreen picture.canvas
  let line ← (← IO.getStdin).getLine
  if line.isEmpty then return
  let s ← pressKeys client s (keysOfLine (withoutEnd line))
  if s.app.hasQuit then return
  converse client s

/-- Starts the console of a session. -/
def startConsole (env : Environment) (session : Session) (client : Api.Client) : IO Unit := do
  let s := State.start (.ofEnvironment env) session
  let (s, issued) := s.process noClipboard s.app.refresh
  converse client (← answerCalls client s issued)

end McpConsole

open McpConsole

/-- Runs the program with its arguments. -/
def main (args : List String) : IO UInt32 := do
  let env ← readEnvironment
  match ← (CommandLine.run env ("mcpdash" :: args)).play with
  | .exit code errors =>
    IO.eprint errors
    return code.toUInt32
  | .console session client =>
    startConsole env session client
    return 0
