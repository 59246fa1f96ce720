import McpConsole.Session.Role

/-!
# Sessions

Who uses the console: an access token, a role and a user, any of which may be missing. The console
works with servers only when all three are there.
-/

namespace McpConsole

open McpConsole.Text

/-- Who uses the console. -/
structure Session where
  credential : Option String
  role : Option String
  userId : Option String
  deriving DecidableEq, Repr, Inhabited

/-- What a session may lack. -/
inductive Parameter where
  | accessToken
  | userRole
  | userId
  deriving DecidableEq, Repr

/-- The name of a parameter. -/
def Parameter.text : Parameter → String
  | .accessToken => "access token"
  | .userRole => "user role"
  | .userId => "user id"

namespace Session

/-- The session of three values, of which a blank one counts as missing. -/
def ofValues (credential role userId : Option String) : Session :=
  ⟨nonBlank credential, nonBlank role, nonBlank userId⟩

/-- What a session lacks. -/
def missing (s : Session) : List Parameter :=
  (if s.credential.isNone then [.accessToken] else []) ++
    (if s.role.isNone then [.userRole] else []) ++
    (if s.userId.isNone then [.userId] else [])

/-- Whether a session lacks nothing. -/
def isComplete (s : Session) : Bool :=
  s.missing.isEmpty

/-- The role of the user, if the session has one. -/
def userRole (s : Session) : Option Role :=
  s.role.map Role.parse

/-- Whether the user may edit and delete. -/
def isAdmin (s : Session) : Bool :=
  s.userRole.any Role.isAdmin

/-- Whether the user is the proxy's administrator. -/
def isProxyAdmin (s : Session) : Bool :=
  s.userRole.any Role.isProxyAdmin

end Session

end McpConsole
