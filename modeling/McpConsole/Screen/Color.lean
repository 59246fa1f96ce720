import McpConsole.Number.Binary
import McpConsole.Text.Blank

/-!
# Colours

The colours of a terminal: its own default, its sixteen named ones, those of its palette, and
mixed ones of three components. Mixed colours can be darkened and lightened by a strength between
nothing and everything; the components are worked out in single precision and a half is rounded
up. The other colours are what the terminal makes of them and stay.
-/

namespace McpConsole.Screen

open McpConsole.Number

/-- The named colours of a terminal. -/
inductive Ansi where
  | black | red | green | yellow | blue | magenta | cyan | gray
  | darkGray | lightRed | lightGreen | lightYellow | lightBlue | lightMagenta | lightCyan | white
  deriving DecidableEq, Repr

/-- The name of a named colour. -/
def Ansi.name : Ansi → String
  | .black => "Black"
  | .red => "Red"
  | .green => "Green"
  | .yellow => "Yellow"
  | .blue => "Blue"
  | .magenta => "Magenta"
  | .cyan => "Cyan"
  | .gray => "Gray"
  | .darkGray => "DarkGray"
  | .lightRed => "LightRed"
  | .lightGreen => "LightGreen"
  | .lightYellow => "LightYellow"
  | .lightBlue => "LightBlue"
  | .lightMagenta => "LightMagenta"
  | .lightCyan => "LightCyan"
  | .white => "White"

/-- The named colours in the order of the palette. -/
def Ansi.all : List Ansi :=
  [.black, .red, .green, .yellow, .blue, .magenta, .cyan, .gray, .darkGray, .lightRed, .lightGreen,
   .lightYellow, .lightBlue, .lightMagenta, .lightCyan, .white]

/-- A colour of a terminal. -/
inductive Color where
  | reset
  | ansi (color : Ansi)
  | indexed (index : Nat)
  | rgb (red green blue : Nat)
  deriving DecidableEq, Repr

/-- How far a colour is darkened or lightened. -/
inductive Strength where
  /-- No number at all. -/
  | undefined
  /-- A number below zero. -/
  | negative
  /-- A number of single precision from zero on. -/
  | amount (x : Binary)
  /-- More than every number. -/
  | unbounded
  deriving DecidableEq, Repr

namespace Strength

/-- The strength brought between nothing and everything. -/
def clamped : Strength → Option Binary
  | .undefined => none
  | .negative => some .zero
  | .amount x => if x.den < x.num then some ⟨1, 0⟩ else some x
  | .unbounded => some ⟨1, 0⟩

/-- The strength of a fraction from zero on. -/
def ofFraction (num den : Nat) : Strength :=
  match single.round? num den with
  | some x => .amount x
  | none => .unbounded

end Strength

/-- The whole number nearest to a number, a half rounded up. -/
def nearest (x : Binary) : Nat :=
  (2 * x.num + x.den) / (2 * x.den)

/-- A component of a darkened colour: its product with what is left of it. -/
def darkenPart (left : Option Binary) (part : Nat) : Nat :=
  let product := do
    let left ← left
    single.mul? (← single.ofNat? part) left
  min ((product.map nearest).getD 0) 255

/-- A component of a lightened colour: it moves towards the greatest one. -/
def lightenPart (amount : Option Binary) (part : Nat) : Nat :=
  let sum := do
    let amount ← amount
    let rest ← single.ofNat? (255 - part)
    single.add? (← single.ofNat? part) (← single.mul? rest amount)
  min ((sum.map nearest).getD 0) 255

namespace Color

/-- The darkened colour, of which a strength is left. -/
def darken (left : Strength) : Color → Color
  | .rgb r g b =>
    let part := darkenPart left.clamped
    .rgb (part r) (part g) (part b)
  | color => color

/-- The colour lightened by a strength. -/
def lighten (amount : Strength) : Color → Color
  | .rgb r g b =>
    let part := lightenPart amount.clamped
    .rgb (part r) (part g) (part b)
  | color => color

/-- The two hexadecimal digits of a component. -/
def hexPart (part : Nat) : String :=
  String.ofList [Nat.digitChar (part / 16), Nat.digitChar (part % 16)]

/-- The text of a colour. -/
def text : Color → String
  | .reset => "Reset"
  | .ansi color => color.name
  | .indexed index => toString index
  | .rgb r g b => "#" ++ hexPart r ++ hexPart g ++ hexPart b

/-- The value of a hexadecimal digit. -/
def hexDigit? (c : Char) : Option Nat :=
  if '0' ≤ c ∧ c ≤ '9' then some (c.toNat - '0'.toNat)
  else if 'a' ≤ c ∧ c ≤ 'f' then some (c.toNat - 'a'.toNat + 10)
  else if 'A' ≤ c ∧ c ≤ 'F' then some (c.toNat - 'A'.toNat + 10)
  else none

/-- The component of two hexadecimal digits, of which the first may be a plus sign instead. -/
def component? (high low : Char) : Option Nat := do
  let sixteens ← if high = '+' then some 0 else hexDigit? high
  return 16 * sixteens + (← hexDigit? low)

/-- The colour of six hexadecimal digits after a number sign. -/
def ofHex? : List Char → Option Color
  | ['#', r, r', g, g', b, b'] => do
    return .rgb (← component? r r') (← component? g g') (← component? b b')
  | _ => none

/-- The place in the palette that a text gives. -/
def ofIndex? (text : String) : Option Color :=
  let digits := if text.startsWith "+" then (text.drop 1).toString else text
  match digits.toList.all Char.isDigit, digits.toNat? with
  | true, some index => if index < 256 then some (.indexed index) else none
  | _, _ => none

/-- The spellings of names that mean another name. -/
def spellings : List (String × String) :=
  [(" ", ""), ("-", ""), ("_", ""), ("bright", "light"), ("grey", "gray"), ("silver", "gray"),
   ("lightblack", "darkgray"), ("lightwhite", "white"), ("lightgray", "white")]

/-- The colour with a name. -/
def ofName? (text : String) : Option Color :=
  let plain := spellings.foldl (fun name (old, new) => name.replace old new) (Text.lowercase text)
  if plain = "reset" then some .reset
  else (Ansi.all.find? fun color => Text.lowercase color.name == plain).map .ansi

/-- The colour that a text gives: a name, a place in the palette or three components. -/
def read? (text : String) : Option Color :=
  ((ofName? text).or (ofIndex? text)).or (ofHex? text.toList)

end Color

end McpConsole.Screen
