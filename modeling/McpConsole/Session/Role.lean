import McpConsole.Text.Blank

/-!
# Roles

The role of the user with the proxy. Roles are accepted by their identifiers and by the labels
that the console shows for them, the organisation's administrator by the identifier only.
-/

namespace McpConsole

open McpConsole.Text

/-- The role of a user. -/
inductive Role where
  | proxyAdmin
  | proxyAdminViewer
  | orgAdmin
  | internalUser
  | internalUserViewer
  | other (text : String)
  deriving DecidableEq, Repr

namespace Role

/-- The role that a text names, without the blanks around it. -/
def parse (text : String) : Role :=
  let name := trimmed text
  if name = "proxy_admin" ∨ name = "Admin" then .proxyAdmin
  else if name = "proxy_admin_viewer" ∨ name = "Admin Viewer" then .proxyAdminViewer
  else if name = "org_admin" then .orgAdmin
  else if name = "internal_user" ∨ name = "Internal User" then .internalUser
  else if name = "internal_user_viewer" ∨ name = "Internal Viewer" then .internalUserViewer
  else .other name

/-- What the console shows for a role. -/
def label : Role → String
  | .proxyAdmin => "Admin"
  | .proxyAdminViewer => "Admin Viewer"
  | .orgAdmin => "Org Admin"
  | .internalUser => "Internal User"
  | .internalUserViewer => "Internal Viewer"
  | .other text => text

/-- Whether editing and deleting are offered to a role. -/
def isAdmin : Role → Bool
  | .proxyAdmin => true
  | .proxyAdminViewer => true
  | .orgAdmin => true
  | _ => false

/-- Whether a role is the proxy's administrator. -/
def isProxyAdmin : Role → Bool
  | .proxyAdmin => true
  | _ => false

end Role

end McpConsole
