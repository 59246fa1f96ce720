import McpConsole.Api.Client
import McpConsole.CommandLine.Args
import McpConsole.Profile
import McpConsole.Session.Basic

/-!
# Settings

The base URL and the session that result from what was given, from the profile and from what is
built in, in this order. The access token is never in the profile; one that was not given is
looked for elsewhere.
-/

namespace McpConsole.CommandLine

/-- Where the API is, and who uses it. -/
structure Settings where
  baseUrl : String
  session : Session
  deriving DecidableEq, Repr

/-- The base URL: given, remembered or built in. -/
def Invocation.resolvedBase (inv : Invocation) (profile : Profile) : String :=
  (inv.baseUrl.or profile.baseUrl).getD Api.defaultBase

/-- The settings, with a way to look for an access token that was not given. -/
def resolveSettings (inv : Invocation) (profile : Profile) (discover : String → Option String) :
    Settings :=
  let base := inv.resolvedBase profile
  { baseUrl := base
    session := .ofValues (inv.token.or (discover base)) (inv.role.or profile.userRole)
      (inv.userId.or profile.userId) }

/-- The profile that remembers settings. -/
def Settings.profile (settings : Settings) : Profile :=
  ⟨some settings.baseUrl, settings.session.role, settings.session.userId⟩

end McpConsole.CommandLine
