import McpConsole.Console.Draw.Detail
import McpConsole.Console.Draw.Dialog

/-!
# Drawing the console

The view that is on the screen, the notice below it and the key hints at the foot, and on top of
them the dialog if one is open. Without a complete session, what is missing is shown instead.

Drawing changes the console only by `State.arrange`; what is drawn after that depends on the
arranged console alone.
-/

namespace McpConsole.Console

open McpConsole.Screen

/-- The lines about an incomplete session. -/
def missingLines (a : App) : List Line :=
  let theme := a.theme
  let missing := ", ".intercalate (a.session.missing.map Parameter.text)
  [[⟨"Missing required parameters: cannot load MCP servers.", theme.severityText .warning⟩],
    [],
    [⟨"Provide: " ++ missing, theme.secondaryText⟩],
    [⟨"Set MCPDASH_API_KEY, MCPDASH_USER_ROLE and MCPDASH_USER_ID, or pass --token, --role " ++
      "and --user-id.", theme.mutedText⟩]]

/-- Draws what an incomplete session lacks. -/
def drawMissing (a : App) (areas : ScreenAreas) (c : Canvas) : Canvas :=
  let c := plainPanel a.theme areas.content listTitle false c
  let c := c.wrapped areas.content.inside true (missingLines a)
  c.lines areas.hints [a.theme.hints [("q", "Quit")]]

/-- The line with the notice. -/
def noticeLine (a : App) : Line :=
  match a.notice with
  | some notice => [⟨notice.text, (a.theme.severityText notice.severity).strong⟩]
  | none => []

namespace State

/-- The keys that can be used. -/
def hints (s : State) : List (String × String) :=
  if s.view.dialog.isSome then dialogHints
  else
    match s.view.content with
    | .list _ => listHints s.app.session.isAdmin
    | .detail => detailHints s.app
    | .create => formHints

/-- The line with the key hints. -/
def hintLine (s : State) : Line :=
  ⟨"Hints: ", s.app.theme.mutedText⟩ :: s.app.theme.hints s.hints

/-- Draws the view. -/
def drawContent (s : State) (area : Rect) (c : Canvas) : Picture :=
  match s.view.content with
  | .list _ => ⟨drawList s.app area c, none⟩
  | .detail => drawDetail s.app area c
  | .create => drawCreate s.app area c

/-- Draws the view, the notice and the key hints. -/
def drawMain (s : State) (areas : ScreenAreas) (c : Canvas) : Picture :=
  let picture := s.drawContent areas.content c
  let c := picture.canvas.lines areas.notice [noticeLine s.app]
  let c := (c.style areas.hints s.app.theme.mutedText).lines areas.hints [s.hintLine]
  { picture with canvas := c }

/-- Draws the console on an empty screen. -/
def draw (s : State) (width height : Nat) : Picture :=
  let c := Canvas.blank width height
  let screen := c.area
  let theme := s.app.theme
  let areas := screenAreas screen
  let c := c.style screen (Style.plain.on theme.background)
  if s.app.session.isComplete then
    let picture := s.drawMain areas c
    if s.view.dialog.isSome then
      let c := drawDialog s.app (dialogArea screen) (drawBackdrop theme picture.canvas)
      { picture with canvas := c }
    else picture
  else ⟨drawMissing s.app areas c, none⟩

/-- Draws the console, which learns where everything is. -/
def render (s : State) (width height : Nat) : State × Picture :=
  let s := s.arrange ⟨0, 0, width, height⟩
  (s, s.draw width height)

end State

end McpConsole.Console
