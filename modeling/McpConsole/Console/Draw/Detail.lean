import McpConsole.Console.Draw.Form
import McpConsole.Console.Draw.List

/-!
# Drawing a server

A server that is shown alone, as lines of labels and values or as a form, and the form of a new
server.
-/

namespace McpConsole.Console

open McpConsole.Screen
open McpConsole.Text

/-- A line with a label and a value. -/
def fieldLine (theme : Theme) (label value : String) : Line :=
  [⟨padded label labelWidth, theme.mutedText⟩, ⟨value, theme.primaryText⟩]

/-- A value without the blanks around it, or a dash if there is none. -/
def orDash (value : Option String) : String :=
  (trimmedNonBlank value).getD "-"

/-- What a session lets its user do. -/
def accessLabel (session : Session) : String :=
  if session.isProxyAdmin then "full access"
  else if session.isAdmin then "admin"
  else "read only"

/-- The lines about the user. -/
def roleLines (a : App) : List Line :=
  match a.session.userRole with
  | none => []
  | some role =>
    [[], [⟨"Signed in as " ++ role.label ++ " (" ++ accessLabel a.session ++ ")",
      a.theme.mutedText⟩]]

/-- The lines about a server. -/
def serverLines (a : App) (server : Server) : List Line :=
  let line := fieldLine a.theme
  let d := server.details
  [line "Server ID" server.id,
    line "Name" (orDash d.name),
    line "Description" (orDash d.description),
    line "Transport" d.transport.label,
    line "Auth Type" d.auth.label,
    line "URL" d.url,
    [],
    line "Created" (Time.formatDateTime server.createdAt),
    line "Created By" (orDash server.createdBy),
    line "Updated" (Time.formatDateTime server.updatedAt),
    line "Updated By" (orDash server.updatedBy)]

/-- The lines of a server that is shown. -/
def detailLines (a : App) (server : Server) : List Line :=
  if server.isPlaceholder then
    [[⟨"This MCP server is no longer in the list. Press Esc to go back.", a.theme.mutedText⟩]]
  else serverLines a server ++ roleLines a

/-- The title of a server. -/
def Detail.title (d : Detail) : String :=
  if d.isEditing then "Edit MCP Server: " ++ d.server.displayName
  else if d.server.isPlaceholder then "MCP Server"
  else "MCP Server: " ++ d.server.displayName

/-- The areas of a server that is edited: its identifier, and the form after an empty line. -/
def editAreas (inner : Rect) : Rect × Rect :=
  let parts := inner.rows [.exactly 1, .exactly 1, .atLeast 0]
  (part parts 0, part parts 2)

/-- What is drawn: the canvas, and where the terminal's cursor is. -/
structure Picture where
  canvas : Canvas
  cursor : Option (Nat × Nat)
  deriving DecidableEq, Repr

/-- Draws a form. -/
def drawForm (theme : Theme) (area : Rect) (form : Form) (c : Canvas) : Picture :=
  ⟨c.lines area (form.textLines theme), form.cursor? area⟩

/-- Draws a server. -/
def drawDetail (a : App) (area : Rect) (c : Canvas) : Picture :=
  match a.detail with
  | none => ⟨c, none⟩
  | some detail =>
    let c := plainPanel a.theme area detail.title true c
    let inner := area.inside
    match detail.form with
    | none => ⟨c.wrapped inner false (detailLines a detail.server), none⟩
    | some form =>
      let (head, body) := editAreas inner
      drawForm a.theme body form (c.lines head [fieldLine a.theme "Server ID" detail.server.id])

/-- Draws the form of a new server. -/
def drawCreate (a : App) (area : Rect) (c : Canvas) : Picture :=
  let c := plainPanel a.theme area "Add New MCP Server" true c
  match a.create with
  | none => ⟨c, none⟩
  | some form => drawForm a.theme area.inside form c

/-- The keys of a server. -/
def detailHints (a : App) : List (String × String) :=
  if a.detail.any Detail.isEditing then formHints
  else
    ("Esc", "Back") :: (if a.session.isAdmin then [("e", "Edit")] else []) ++
      [("Ctrl+Y", "Copy URL")]

end McpConsole.Console
