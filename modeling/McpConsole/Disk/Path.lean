/-!
# Paths

A path is text, with slashes between its names. `Path.join` puts one path behind another, and a
`Route` is what a path says to somebody who walks it: where to begin, which names to take, and
whether the end has to be a folder.
-/

namespace McpConsole

namespace Path

/-- Whether a path begins at the root. -/
def isAbsolute (path : String) : Bool :=
  path.toList.head? == some '/'

/-- A path seen from another one. An absolute path stays what it is. -/
def join (base path : String) : String :=
  if isAbsolute path ∨ base.isEmpty then path
  else if base.toList.getLast? = some '/' then base ++ path
  else base ++ "/" ++ path

/-- The pieces of a text between slashes, after the open piece `piece`. -/
def piecesFrom (piece : List Char) : List Char → List (List Char)
  | [] => [piece]
  | c :: cs => if c = '/' then piece :: piecesFrom [] cs else piecesFrom (piece ++ [c]) cs

/-- The names in a path. A name of one point, which stays where it is, and an empty one are left
out. -/
def names (path : String) : List String :=
  ((piecesFrom [] path.toList).filter fun name => !name.isEmpty && name != ['.']).map String.ofList

/-- Whether a path can only mean a folder: it ends with a slash or with a name of points. -/
def meansFolder (path : String) : Bool :=
  match (piecesFrom [] path.toList).getLast? with
  | some name => name.isEmpty || name == ['.'] || name == ['.', '.']
  | none => true

/-- A reversed path without slashes and names of one point at its end. -/
def trimReversed : List Char → List Char
  | '/' :: c :: cs => trimReversed (c :: cs)
  | '.' :: '/' :: cs => trimReversed ('/' :: cs)
  | cs => cs
termination_by cs => cs.length

/-- The path of the folder that holds the end of a path. The root and the empty path have none. -/
def parent? (path : String) : Option String :=
  let whole := trimReversed path.toList.reverse
  if whole.isEmpty ∨ whole = ['/'] then none
  else some (String.ofList (trimReversed (whole.dropWhile (· != '/'))).reverse)

end Path

/-- A way through folders: whether it begins at the root, and its names from the last to the
first. -/
structure Route where
  isAbsolute : Bool
  reversed : List String
  deriving DecidableEq, Repr

/-- The way that a path describes. -/
def Route.ofPath (path : String) : Route :=
  ⟨Path.isAbsolute path, (Path.names path).reverse⟩

end McpConsole
