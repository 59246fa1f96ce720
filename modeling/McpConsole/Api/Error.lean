import McpConsole.Url.Host

/-!
# Why a call fails

The causes for which a call to the management API gives no result, and their texts.
-/

namespace McpConsole.Api

/-- Why a base URL is refused. -/
inductive BaseUrlError where
  | notAUrl (text : String) (cause : Url.Error)
  | withoutHost (text : String)
  | unknownScheme (scheme : String)
  | insecure (scheme : String)
  deriving DecidableEq, Repr

/-- The text of a cause. -/
def BaseUrlError.message : BaseUrlError → String
  | .notAUrl text cause => "'" ++ text ++ "': " ++ cause.message
  | .withoutHost text => "'" ++ text ++ "' must include a host"
  | .unknownScheme scheme => "unsupported scheme '" ++ scheme ++ "://'"
  | .insecure scheme => "non-localhost hosts must use https; got '" ++ scheme ++ "://'"

/-- Why a call fails. -/
inductive Error where
  /-- There is no access token, and nothing was sent. -/
  | missingCredential
  /-- The base URL is refused. -/
  | invalidBaseUrl (reason : String)
  /-- The server refused. -/
  | status (code : Nat) (reason : String)
  /-- The request could not be sent. -/
  | transport
  /-- The answer cannot be understood. -/
  | decode
  deriving DecidableEq, Repr

/-- What is known of a request that could not be sent. -/
def transportDetail : String := "no connection to the server"

/-- What is known of an answer that cannot be understood. -/
def decodeDetail : String := "not the JSON that was asked for"

/-- The text of a cause. -/
def Error.message : Error → String
  | .missingCredential => "missing access token"
  | .invalidBaseUrl reason => "invalid API base URL: " ++ reason
  | .status code reason => "request failed with status " ++ toString code ++ ": " ++ reason
  | .transport => "request failed: " ++ transportDetail
  | .decode => "unexpected response body: " ++ decodeDetail

end McpConsole.Api
