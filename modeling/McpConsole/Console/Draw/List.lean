import McpConsole.Console.Arrange
import McpConsole.Screen.Canvas
import McpConsole.Text.Truncate
import McpConsole.Time.Display

/-!
# Drawing the list

The state of the list, the table of the servers from the first one that is shown, the address of
the selected server, and the buttons of administrators.
-/

namespace McpConsole.Console

open McpConsole.Query
open McpConsole.Screen
open McpConsole.Text

/-- The headings of the table. -/
def headings : List String :=
  ["Server ID", "Name", "Description", "Transport", "Auth Type", "URL", "Created", "Info"]

/-- The title of the list. -/
def listTitle : String := "MCP Servers"

/-- A panel with a plain border. -/
def plainPanel (theme : Theme) (area : Rect) (title : String) (focused : Bool) (c : Canvas) :
    Canvas :=
  c.panel area theme.panel .angular (theme.borderStyle focused)
    (some ⟨title, theme.secondaryText.strong⟩)

namespace App

/-- The line that tells how far the list has come. -/
def statusLine (a : App) : Line :=
  let muted := a.theme.mutedText
  if a.isLoading then
    let picture := throbberPictures.getD (a.throbber % throbberPictures.length) ""
    [⟨picture ++ " ", a.theme.strongAccent⟩, ⟨"Loading MCP servers…", muted⟩]
  else
    match a.listStatus with
    | .failed reason =>
      [⟨"Failed to load MCP servers: " ++ reason, a.theme.severityText .error⟩,
        ⟨"  (r to retry)", muted⟩]
    | _ => [⟨toString a.servers.length ++ " MCP server(s)", muted⟩]

/-- The line with the whole address of the selected server. -/
def selectionLine (a : App) : Line :=
  match a.selected? with
  | some server => [⟨"URL: ", a.theme.mutedText⟩, ⟨server.details.url, a.theme.primaryText⟩]
  | none => []

/-- The cells of the row of a server. -/
def tableCells (a : App) (server : Server) : List Span :=
  let d := server.details
  [⟨truncated idWidth server.id, a.theme.accent⟩,
    ⟨d.name.getD "", .plain⟩,
    ⟨d.description.getD "", .plain⟩,
    ⟨d.transport.label, .plain⟩,
    ⟨d.auth.label, .plain⟩,
    ⟨d.url, .plain⟩,
    ⟨Time.formatDate server.createdAt, .plain⟩,
    ⟨if a.session.isAdmin then "[e] [d]" else "", a.theme.mutedText⟩]

end App

/-- Draws cells on a row of the table. -/
def drawCells (columns : List Rect) (row : Nat) (cells : List Span) (c : Canvas) : Canvas :=
  (columns.zip cells).foldl
    (fun c (column, cell) => c.span { column with y := row, height := 1 } cell) c

/-- Draws the row of a server. -/
def drawRow (a : App) (columns : List Rect) (area : Rect) (index : Nat) (server : Server)
    (c : Canvas) : Canvas :=
  let c := drawCells columns area.y (a.tableCells server) (c.style area (a.theme.tableRow index))
  if a.cursor.selected = some index then c.style area a.theme.selection else c

/-- Draws the table. -/
def drawTable (a : App) (areas : ListAreas) (c : Canvas) : Canvas :=
  let table := areas.table
  let theme := a.theme
  let columns := table.columns 1 tableShares
  let c := c.style table theme.panel
  if table.isEmpty then c
  else
    let c := c.style { table with height := 1 } theme.tableHeaderRow
    let c := drawCells columns table.y (headings.map fun text => ⟨text, theme.tableHeader⟩) c
    let rows := areas.rows
    let visible := ((a.servers.zipIdx).drop a.cursor.offset).take rows.height
    (visible.zipIdx).foldl (fun c ((server, index), line) =>
      drawRow a columns ⟨rows.x, rows.y + line, rows.width, 1⟩ index server c) c

/-- Draws the buttons below the list. -/
def drawListButtons (a : App) (areas : ListAreas) (c : Canvas) : Canvas :=
  let theme := a.theme
  let buttons := areas.buttonAreas
  let edge := theme.borderStyle false
  let c := c.button buttons.add "Add New MCP Server" (theme.secondaryButton false) edge
  if a.selected?.isSome then
    let c := c.button buttons.edit "Edit" (theme.secondaryButton false) edge
    c.button buttons.delete "Delete" (theme.primaryButton .error false) edge
  else c

/-- Draws the list. -/
def drawList (a : App) (area : Rect) (c : Canvas) : Canvas :=
  let isAdmin := a.session.isAdmin
  let areas := listAreas area isAdmin
  let c := plainPanel a.theme area listTitle true c
  let c := drawTable a areas (c.lines areas.status [a.statusLine])
  let c := c.lines areas.selection [a.selectionLine]
  if isAdmin then drawListButtons a areas c else c

/-- The keys of the list. -/
def listHints (isAdmin : Bool) : List (String × String) :=
  [("↑/↓", "Move"), ("Enter", "Details")] ++
    (if isAdmin then [("e", "Edit"), ("d", "Delete"), ("n", "New")] else []) ++
    [("r", "Refresh"), ("q", "Quit")]

end McpConsole.Console
