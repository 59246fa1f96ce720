import McpConsole.Disk.Path

/-!
# The file system

Files and folders by their places, and the operations that the program needs: read a file, write
one, and make folders. An operation that fails says why, with the number that the system gives to
the cause.

Places are lists of names from the root. The root is always there, and a relative way begins at
the present folder.
-/

namespace McpConsole

/-- Why an operation on files fails. -/
inductive DiskError where
  | notFound
  | notAFolder
  | isAFolder
  | exists
  | notText
  deriving DecidableEq, Repr

/-- The text of a cause. -/
def DiskError.message : DiskError → String
  | .notFound => "No such file or directory (os error 2)"
  | .notAFolder => "Not a directory (os error 20)"
  | .isAFolder => "Is a directory (os error 21)"
  | .exists => "File exists (os error 17)"
  | .notText => "stream did not contain valid UTF-8"

/-- What is at a place. -/
inductive Entry where
  | file (content : ByteArray)
  | folder

/-- A place: the names from the root. -/
abbrev Place := List String

/-- What is where, and the present folder. -/
structure Disk where
  entries : List (Place × Entry)
  here : Place

namespace Disk

/-- What is at a place. -/
def entry? (disk : Disk) (place : Place) : Option Entry :=
  if place.isEmpty then some .folder
  else (disk.entries.find? fun entry => entry.1 == place).map Prod.snd

/-- The disk with something at a place, whatever was there before. -/
def put (disk : Disk) (place : Place) (entry : Entry) : Disk :=
  { disk with entries := disk.entries.filter (fun old => old.1 != place) ++ [(place, entry)] }

/-- Whether a folder is at a place. -/
def isFolder (disk : Disk) (place : Place) : Bool :=
  match disk.entry? place with
  | some .folder => true
  | _ => false

/-- The place behind one more name. Only a folder has places behind it, and two points lead back. -/
def enter (disk : Disk) (place : Place) (name : String) : Except DiskError Place :=
  match disk.entry? place with
  | none => .error .notFound
  | some (.file _) => .error .notAFolder
  | some .folder => .ok (if name = ".." then place.dropLast else place ++ [name])

/-- The place at the end of a way. It need not hold anything, but all places on the way do. -/
def locate (disk : Disk) (route : Route) : Except DiskError Place :=
  route.reversed.reverse.foldlM disk.enter (if route.isAbsolute then [] else disk.here)

/-- The place that a path means. -/
def locatePath (disk : Disk) (path : String) : Except DiskError Place :=
  if path.isEmpty then .error .notFound else disk.locate (.ofPath path)

/-- The content of the file at a path. -/
def read (disk : Disk) (path : String) : Except DiskError ByteArray := do
  let place ← disk.locatePath path
  match disk.entry? place with
  | none => .error .notFound
  | some .folder => .error .isAFolder
  | some (.file content) => if Path.meansFolder path then .error .notAFolder else .ok content

/-- The content of the file at a path as text. -/
def readText (disk : Disk) (path : String) : Except DiskError String := do
  let content ← disk.read path
  match String.fromUTF8? content with
  | none => .error .notText
  | some text => .ok text

/-- The disk with a new content in the file at a path, which need not have been there. -/
def write (disk : Disk) (path : String) (content : ByteArray) : Except DiskError Disk := do
  let place ← disk.locatePath path
  match disk.entry? place with
  | some .folder => .error .isAFolder
  | none =>
    if Path.meansFolder path then .error .isAFolder else .ok (disk.put place (.file content))
  | some (.file _) =>
    if Path.meansFolder path then .error .notAFolder else .ok (disk.put place (.file content))

/-- The disk with a new folder at the end of a way. -/
def makeFolder (disk : Disk) (route : Route) : Except DiskError Disk := do
  let place ← disk.locate route
  match disk.entry? place with
  | some _ => .error .exists
  | none => .ok (disk.put place .folder)

/-- Whether a folder is at the end of a way. -/
def hasFolder (disk : Disk) (route : Route) : Bool :=
  match disk.locate route with
  | .ok place => disk.isFolder place
  | .error _ => false

/-- The disk after a failure to make a folder, which does not matter if the folder is there. -/
def orExisting (disk : Disk) (route : Route) : Except DiskError Disk → Except DiskError Disk
  | .ok made => .ok made
  | .error cause => if disk.hasFolder route then .ok disk else .error cause

/-- The disk with a folder at the end of a way, given by its names from the last to the first, and
with all folders on the way. The folders above are made only if they are missing. -/
def makeFolders (disk : Disk) (isAbsolute : Bool) : List String → Except DiskError Disk
  | [] => .ok disk
  | name :: above =>
    let route : Route := ⟨isAbsolute, name :: above⟩
    match disk.makeFolder route with
    | .ok made => .ok made
    | .error .notFound => do
      let disk ← disk.makeFolders isAbsolute above
      disk.orExisting route (disk.makeFolder route)
    | .error cause => disk.orExisting route (.error cause)

/-- The disk with the folders above a path. -/
def makeParents (disk : Disk) (path : String) : Except DiskError Disk :=
  match Path.parent? path with
  | none => .ok disk
  | some parent =>
    let route := Route.ofPath parent
    disk.makeFolders route.isAbsolute route.reversed

end Disk

end McpConsole
