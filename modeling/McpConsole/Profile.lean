import McpConsole.Disk.Basic
import McpConsole.Disk.Home
import McpConsole.Json.Decode
import McpConsole.Json.Printer

/-!
# The profile

What is remembered from one run to the next: the base URL, the role and the user, never the access
token. It is a small JSON file. A file that cannot be understood counts as no profile at all.
-/

namespace McpConsole

open McpConsole.Json
open McpConsole.Text

/-- What is remembered between runs. -/
structure Profile where
  baseUrl : Option String
  userRole : Option String
  userId : Option String
  deriving DecidableEq, Repr, Inhabited

namespace Profile

/-- A profile that remembers nothing. -/
def empty : Profile := default

/-- A member for a value that is remembered. -/
def member (key : String) (value : Option String) : List (String × Value) :=
  (value.map fun text => (key, Value.string text)).toList

/-- A profile as a value. -/
def toValue (p : Profile) : Value :=
  .object (member "base_url" p.baseUrl ++ member "user_role" p.userRole ++
    member "user_id" p.userId)

/-- The content of the file of a profile. -/
def text (p : Profile) : String :=
  p.toValue.prettyText

/-- The profile that a text means. -/
def ofNode? (node : Node) : Option Profile := do
  match ← node.fields? ["base_url", "user_role", "user_id"] with
  | [baseUrl, userRole, userId] =>
    let baseUrl ← optionalString? baseUrl
    let userRole ← optionalString? userRole
    let userId ← optionalString? userId
    some ⟨baseUrl, userRole, userId⟩
  | _ => none

/-- The profile that the content of a file means. -/
def ofText (text : String) : Profile :=
  ((Json.read? text.toList).bind ofNode?).getD empty

/-- The profile that reading a file gives, which is empty if there is no file. -/
def ofRead (text : Except DiskError String) : Except DiskError Profile :=
  match text with
  | .ok text => .ok (ofText text)
  | .error .notFound => .ok empty
  | .error cause => .error cause

/-- The profile in the file at a path. -/
def load (disk : Disk) (path : String) : Except DiskError Profile :=
  ofRead (disk.readText path)

/-- The disk with a profile in the file at a path; folders are made as needed. -/
def save (p : Profile) (disk : Disk) (path : String) : Except DiskError Disk := do
  let disk ← disk.makeParents path
  disk.write path p.text.toUTF8

/-- The text of a failure to read or write a profile. -/
def errorMessage (cause : DiskError) : String :=
  "profile I/O error: " ++ cause.message

/-- Where the profile is, if nothing else is said. -/
def defaultPath (env : Environment) : String :=
  match trimmedNonBlank (env.get? "MCPDASH_PROFILE_PATH") with
  | some path => env.expandTilde path
  | none => env.configFile "profile.json"

end Profile

end McpConsole
