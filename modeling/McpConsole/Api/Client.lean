import McpConsole.Api.Error
import McpConsole.Http.Base64
import McpConsole.Http.Message
import McpConsole.Text.Blank
import McpConsole.Url.Reader

/-!
# The client

A client belongs to a base URL, which has to be one that a credential may be sent to: any host by
`https`, and the own machine by `http` too. `Client.request` is the request for a path below the
base URL.

A user and a password in the base URL are sent as a header of their own, before the access token,
and not as a part of the URL.
-/

namespace McpConsole.Api

open McpConsole.Text

/-- The setting that names a base URL. -/
def baseSetting : String := "MCPDASH_API_BASE"

/-- The base URL when nothing else is said. -/
def defaultBase : String := "http://localhost:4000"

/-- What the client calls itself. -/
def userAgent : String := "mcpdash/0.1.0; linux"

/-- The hosts that may be reached by `http`. -/
def localHosts : List String :=
  ["localhost", "127.0.0.1", "[::1]"]

/-- Checks a URL that was read from a text. -/
def checkUrl (text : String) (url : Url) : Except BaseUrlError Unit :=
  match url.host with
  | none => .error (.withoutHost text)
  | some host =>
    if localHosts.contains (lowercase host.text) then
      if url.scheme = "http" ∨ url.scheme = "https" then .ok ()
      else .error (.unknownScheme url.scheme)
    else if url.scheme = "https" then .ok ()
    else .error (.insecure url.scheme)

/-- Checks that a text is a base URL. -/
def checkBase (text : String) : Except BaseUrlError Unit :=
  match Url.parse text with
  | .error cause => .error (.notAUrl text cause)
  | .ok url => checkUrl text url

/-- A client for a base URL, which is kept without slashes at its end. -/
structure Client where
  baseUrl : String
  deriving DecidableEq, Repr

namespace Client

/-- The text without slashes at its end. -/
def withoutSlashes (text : String) : String :=
  String.ofList (text.toList.reverse.dropWhile (· == '/')).reverse

/-- The client for a base URL. -/
def ofBase (text : String) : Except Error Client :=
  match checkBase text with
  | .error cause => .error (.invalidBaseUrl cause.message)
  | .ok () => .ok ⟨withoutSlashes text⟩

/-- The user and the password of a URL, if it has any and they are text. -/
def userOf? (url : Url) : Option (String × String) := do
  if url.username.isEmpty ∧ url.password.isEmpty then none
  let name ← Url.textOfOctets? (Url.decode url.username.toList)
  let password := Url.textOfOctets? (Url.decode url.password.toList)
  if name.isEmpty ∧ (url.password.isEmpty ∨ password.isNone) then none
  some (name, password.getD "")

/-- A URL without the user and the password that are sent as a header, and this header. -/
def splitUser (url : Url) : Url × List (String × String) :=
  match userOf? url with
  | none => (url, [])
  | some (name, password) =>
    ({ url with username := "", password := "" },
     [("authorization", "Basic " ++ Http.Base64.ofText (name ++ ":" ++ password))])

/-- The request with a method for a path, with the access token of a credential. -/
def request (client : Client) (method path credential : String) : Except Error Http.Request :=
  let token := trimmed credential
  if token.isEmpty then .error .missingCredential
  else
    match Url.parse (client.baseUrl ++ path) with
    | .error _ => .error .transport
    | .ok url =>
      let (url, user) := splitUser url
      let bearer := "Bearer " ++ token
      if Http.isHeaderValue bearer then
        let headers := user ++ [("user-agent", userAgent), ("authorization", bearer)]
        .ok { method := method, url := url, headers := headers, body := "" }
      else .error .transport

end Client

end McpConsole.Api
