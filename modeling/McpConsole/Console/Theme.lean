import McpConsole.Console.Dialog
import McpConsole.Disk.Home
import McpConsole.Screen.Text

/-!
# Themes

The colours of the console by the part that they play, in a plain variant and in one of higher
contrast, and the styles that are made of them.
-/

namespace McpConsole.Console

open McpConsole.Screen
open McpConsole.Text

/-- The colours by the part that they play. -/
structure Theme where
  background : Color
  surface : Color
  surfaceMuted : Color
  border : Color
  text : Color
  textSecondary : Color
  textMuted : Color
  accentPrimary : Color
  accentSecondary : Color
  info : Color
  success : Color
  warning : Color
  error : Color
  selectionBackground : Color
  selectionForeground : Color
  focus : Color
  /-- What is behind an open dialog. -/
  modalBackground : Color
  evenRow : Color
  oddRow : Color
  deriving DecidableEq, Repr

namespace Theme

/-! ### The two themes -/

/-- The darkest of the four polar night colours. -/
def night0 : Color := .rgb 0x2E 0x34 0x40

/-- The second polar night colour. -/
def night1 : Color := .rgb 0x3B 0x42 0x52

/-- The third polar night colour. -/
def night2 : Color := .rgb 0x43 0x4C 0x5E

/-- The lightest polar night colour. -/
def night3 : Color := .rgb 0x4C 0x56 0x6A

/-- The darkest of the three snow storm colours. -/
def snow0 : Color := .rgb 0xD8 0xDE 0xE9

/-- The second snow storm colour. -/
def snow1 : Color := .rgb 0xE5 0xE9 0xF0

/-- The lightest snow storm colour. -/
def snow2 : Color := .rgb 0xEC 0xEF 0xF4

/-- The frost colour of ice. -/
def frostIce : Color := .rgb 0x88 0xC0 0xD0

/-- The frost colour of water. -/
def frostWater : Color := .rgb 0x81 0xA1 0xC1

/-- The frost colour of the deep sea. -/
def frostSea : Color := .rgb 0x5E 0x81 0xAC

/-- The red of the aurora. -/
def auroraRed : Color := .rgb 0xBF 0x61 0x6A

/-- The orange of the aurora. -/
def auroraOrange : Color := .rgb 0xD0 0x87 0x70

/-- The yellow of the aurora. -/
def auroraYellow : Color := .rgb 0xEB 0xCB 0x8B

/-- The green of the aurora. -/
def auroraGreen : Color := .rgb 0xA3 0xBE 0x8C

/-- The plain theme. -/
def nord : Theme where
  background := night0
  surface := night1
  surfaceMuted := night2
  border := night1
  text := snow0
  textSecondary := snow1
  textMuted := .rgb 0x61 0x6E 0x88
  accentPrimary := frostIce
  accentSecondary := frostWater
  info := frostWater
  success := auroraGreen
  warning := auroraOrange
  error := auroraRed
  selectionBackground := night3
  selectionForeground := snow2
  focus := frostIce
  modalBackground := .rgb 0x1A 0x1E 0x28
  evenRow := night1.darken (.ofFraction 60 100)
  oddRow := night2.darken (.ofFraction 60 100)

/-- The theme of higher contrast. -/
def highContrast : Theme :=
  { nord with
    border := nord.border.lighten (.ofFraction 30 100)
    text := snow2
    textSecondary := snow2
    textMuted := snow1
    warning := auroraYellow
    focus := frostSea
    evenRow := night1.darken (.ofFraction 50 100)
    oddRow := night3.darken (.ofFraction 50 100) }

/-- The setting that names the theme. -/
def setting : String := "MCPDASH_THEME"

/-- The theme that the environment names, or the plain one. -/
def ofEnvironment (env : Environment) : Theme :=
  let name := ((env.get? setting).map trimmed).getD ""
  if name = "nord-high-contrast" ∨ name = "high-contrast" then highContrast else nord

/-! ### Styles -/

variable (t : Theme)

/-- The style of ordinary text. -/
def primaryText : Style := .color t.text

/-- The style of titles and labels. -/
def secondaryText : Style := .color t.textSecondary

/-- The style of text that stays in the background. -/
def mutedText : Style := .color t.textMuted

/-- The style of a border. -/
def borderStyle (focused : Bool) : Style :=
  .color (if focused then t.focus else t.border)

/-- The style of the selected row. -/
def selection : Style :=
  ((Style.color t.selectionForeground).on t.selectionBackground).strong

/-- The style of everything behind an open dialog. -/
def modalBackdrop : Style :=
  Style.plain.on t.modalBackground

/-- The colour of a severity. -/
def severityColor : Severity → Color
  | .info => t.info
  | .success => t.success
  | .warning => t.warning
  | .error => t.error

/-- The style of a text of a severity. -/
def severityText (s : Severity) : Style := .color (t.severityColor s)

/-- The style of what stands out. -/
def accent : Style := .color t.accentPrimary

/-- The style of what stands out most. -/
def strongAccent : Style := t.accent.strong

/-- The style of a panel. -/
def panel : Style := (Style.color t.text).on t.surface

/-- The style of a heading of the list. -/
def tableHeader : Style := t.secondaryText.strong

/-- The style of the row of headings. -/
def tableHeaderRow : Style := Style.plain.on t.surfaceMuted

/-- The style of a row of the list. -/
def tableRow (index : Nat) : Style :=
  (Style.color t.text).on (if index % 2 = 0 then t.evenRow else t.oddRow)

/-- The style of an input. -/
def input (valid focused : Bool) : Style :=
  let style := (Style.color (if valid then t.text else t.error)).on t.surfaceMuted
  if focused then style.strong else style

/-- The style of a button that carries a severity. -/
def primaryButton (s : Severity) (focused : Bool) : Style :=
  if focused then ((Style.color t.background).on (t.severityColor s)).strong
  else (Style.color (t.severityColor s)).strong

/-- The style of any other button. -/
def secondaryButton (focused : Bool) : Style :=
  let style := Style.color t.accentSecondary
  if focused then style.on t.selectionBackground else style

/-- The spans of key hints: each key, and what it does. -/
def hints (pairs : List (String × String)) : Line :=
  pairs.flatMap fun (key, action) =>
    [⟨key, t.strongAccent⟩, ⟨" " ++ action ++ "  ", t.mutedText⟩]

end Theme

end McpConsole.Console
