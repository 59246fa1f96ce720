import McpConsole.Server.Basic
import McpConsole.Text.Truncate
import McpConsole.Time.Display

/-!
# The printed table

Servers as a table of plain text, one a line below the names of the columns. Columns are filled up
by counting characters. White space at the end of the table is left out.
-/

namespace McpConsole.CommandLine

open McpConsole.Text

/-- A text filled up with blanks to a number of characters. -/
def padded (width : Nat) (cs : List Char) : List Char :=
  cs ++ List.replicate (width - cs.length) ' '

/-- The widths of all columns but the last. -/
def columnWidths : List Nat :=
  [24, 20, 9, 12, 10]

/-- A line of the table: the columns with two blanks between them, and the last one as it is. -/
def line (columns : List (List Char)) (last : List Char) : List Char :=
  (List.zipWith padded columnWidths columns).flatMap (· ++ [' ', ' ']) ++ last ++ ['\n']

/-- The names of the columns. -/
def header : List Char :=
  line (["SERVER ID", "NAME", "TRANSPORT", "AUTH", "CREATED"].map String.toList) "URL".toList

/-- The line of a server. -/
def row (server : Server) : List Char :=
  line
    [truncate 24 server.id.toList, truncate 20 (server.details.name.getD "-").toList,
     server.details.transport.label.toList, server.details.auth.label.toList,
     (Time.formatDate server.createdAt).toList]
    server.details.url.toList

/-- The table of servers. -/
def renderTable (servers : List Server) : String :=
  String.ofList (trimEnd (header ++ servers.flatMap row))

end McpConsole.CommandLine
