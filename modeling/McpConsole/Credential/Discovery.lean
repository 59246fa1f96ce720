import McpConsole.Credential.Netrc
import McpConsole.Disk.Home
import McpConsole.Program.Script
import McpConsole.Url.Reader

/-!
# Finding a credential

An access token that nobody has given is looked for in the environment, and then in the file of
passwords in the home folder, by the host of the base URL.
-/

namespace McpConsole.Credential

open McpConsole.Program
open McpConsole.Text

/-- The setting that holds an access token. -/
def keySetting : String := "MCPDASH_API_KEY"

/-- The host of a base URL. -/
def hostOf? (baseUrl : String) : Option String :=
  match Url.parse baseUrl with
  | .ok url => url.host.map Url.Host.text
  | .error _ => none

/-- The password for a base URL that reading the file gives. -/
def ofFile? (host : String) (content : Except DiskError String) : Option String :=
  content.toOption.bind fun content => passwordFor? content host

/-- Looks for the access token for a base URL. -/
def discover (env : Environment) (baseUrl : String) : Script (Option String) :=
  match nonBlank (env.get? keySetting) with
  | some key => .done (some key)
  | none =>
    match hostOf? baseUrl, env.home? with
    | some host, some home =>
      .readText (Path.join home ".netrc") fun content => .done (ofFile? host content)
    | _, _ => .done none

end McpConsole.Credential
