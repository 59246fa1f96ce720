import McpConsole.Text.Blank

/-!
# Passwords by host

A file of passwords is a sequence of words. `machine` and a name begin what is said of a host,
`default` what is said of all others, and `password` and a word give the password. The first
password for a host counts, or else the last one for all others. Other words have no meaning.
-/

namespace McpConsole.Credential

open McpConsole.Text

/-- Of which hosts the file speaks, as far as the host that is looked for is concerned. -/
inductive Topic where
  | thisHost
  | otherHosts
  | anyHost
  deriving DecidableEq, Repr

/-- Whether a name is the name of a host, whatever the case of ASCII letters. -/
def isSameHost (name host : String) : Bool :=
  lowercase name == lowercase host

/-- The password for a host in the rest of a file. What is known by then: of which hosts the file
speaks, and the last password for all hosts. A last word that needs another one after it ends the
search with nothing. -/
def passwordFrom (host : String) (topic : Topic) (fallback : Option String) :
    List String → Option String
  | [] => fallback
  | word :: rest =>
    if word = "machine" then
      match rest with
      | [] => none
      | name :: rest =>
        passwordFrom host (if isSameHost name host then .thisHost else .otherHosts) fallback rest
    else if word = "default" then passwordFrom host .anyHost fallback rest
    else if word = "password" then
      match rest with
      | [] => none
      | password :: rest =>
        match topic with
        | .thisHost => some password
        | .anyHost => passwordFrom host topic (some password) rest
        | .otherHosts => passwordFrom host topic fallback rest
    else passwordFrom host topic fallback rest

/-- The words of a file. -/
def fileWords (content : String) : List String :=
  (words content.toList).map String.ofList

/-- The password for a host in the content of a file. -/
def passwordFor? (content host : String) : Option String :=
  passwordFrom host .otherHosts none (fileWords content)

end McpConsole.Credential
