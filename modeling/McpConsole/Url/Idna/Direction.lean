import McpConsole.Text.Cluster.Table
import McpConsole.Text.Ranges

/-!
# Direction in domain names

Scripts are written from left to right or from right to left. Once one label of a name holds a
character written from right to left, every label has to show its direction: `isConsistent` is
the check. A label starts with a letter, keeps to the direction of that letter, and ends in a
letter or digit that fits it, marks aside.
-/

namespace McpConsole.Url.Idna.Direction

open McpConsole.Text

/-- Digits, however the text around them runs. -/
def digitRanges : List (Nat × Nat) :=
  [(0x30, 0x39), (0x6F0, 0x6F9), (0x102E1, 0x102FB)]

/-- Digits that belong to text from right to left. -/
def arabicDigitRanges : List (Nat × Nat) :=
  [(0x660, 0x669), (0x66B, 0x66C), (0x10D30, 0x10D39), (0x10E60, 0x10E7E)]

/-- The blocks of the scripts written from right to left. -/
def rightToLeftRanges : List (Nat × Nat) :=
  [(0x5BE, 0x8C9), (0xFBB2, 0xFE73), (0x10800, 0x10FF6), (0x1E800, 0x1ED3D)]

/-- Signs that have no direction. -/
def neutralRanges : List (Nat × Nat) :=
  [(0x0, 0x60), (0x7B, 0xD7), (0xF7, 0xF7), (0x2B9, 0x2BA), (0x2C2, 0x2CF), (0x2D2, 0x2ED),
   (0x2EF, 0x2FF), (0x375, 0x375), (0x3F6, 0x3F6), (0x58A, 0x58F), (0x606, 0x607),
   (0x609, 0x60A), (0x60C, 0x60C), (0x60E, 0x60F), (0x66A, 0x66A), (0x6DE, 0x6DE),
   (0x6E9, 0x6E9), (0x7F6, 0x7F9), (0x9F2, 0x9F3), (0x9FB, 0x9FB), (0xAF1, 0xAF1),
   (0xBF3, 0xBFA), (0xC78, 0xC7E), (0xE3F, 0xE3F), (0xF3A, 0xF3D), (0x1390, 0x1399),
   (0x1400, 0x1400), (0x169B, 0x169C), (0x17DB, 0x17DB), (0x17F0, 0x180A), (0x1940, 0x1945),
   (0x19DE, 0x19FF), (0x200C, 0x214D), (0x218A, 0x2335), (0x237B, 0x2394), (0x2396, 0x2426),
   (0x2440, 0x26AB), (0x26AD, 0x27FF), (0x2900, 0x2B95), (0x2B97, 0x2BFF), (0x2CE5, 0x2CEA),
   (0x2CF9, 0x2CFF), (0x2E00, 0x3004), (0x3008, 0x3020), (0x3030, 0x3030), (0x3037, 0x3037),
   (0x303D, 0x303F), (0x30A0, 0x30A0), (0x30FB, 0x30FB), (0x31C0, 0x31E3), (0x4DC0, 0x4DFF),
   (0xA490, 0xA4C6), (0xA60D, 0xA60F), (0xA673, 0xA67F), (0xA700, 0xA721), (0xA788, 0xA788),
   (0xA828, 0xA82B), (0xA838, 0xA839), (0xA874, 0xA877), (0xAB6A, 0xAB6B), (0xFD3E, 0xFD4F),
   (0xFDCF, 0xFE46), (0x10101, 0x10101), (0x10140, 0x1018C), (0x10190, 0x101A0),
   (0x1091F, 0x1091F), (0x10B39, 0x10B3F), (0x11052, 0x11065), (0x11660, 0x1166C),
   (0x11FD5, 0x11FF1), (0x16FE2, 0x16FE2), (0x1D1E9, 0x1D245), (0x1D300, 0x1D356),
   (0x1E2FF, 0x1E2FF), (0x1EEF0, 0x1F12F), (0x1F16D, 0x1F16F), (0x1F1AD, 0x1F1AD),
   (0x1F260, 0x1F6D7), (0x1F6DC, 0x1F776), (0x1F77B, 0x1F8B1), (0x1F900, 0x1FA53),
   (0x1FA60, 0x1FA88), (0x1FA90, 0x1FABD), (0x1FABF, 0x1FAC5), (0x1FACE, 0x1FADB),
   (0x1FAE0, 0x1FAE8), (0x1FAF0, 0x1FBCA)]

/-- How a character bears on the direction of the text it stands in. -/
inductive Class where
  | digit
  | arabicDigit
  | mark
  | neutral
  | rightToLeft
  | leftToRight
  deriving DecidableEq

/-- The class of a character that a domain name may hold. -/
def classOf (c : Char) : Class :=
  let n := c.toNat
  if inRanges digitRanges n then .digit
  else if inRanges arabicDigitRanges n then .arabicDigit
  else if inRanges Cluster.extendRanges n && c != '\u200C' then .mark
  else if inRanges neutralRanges n then .neutral
  else if inRanges rightToLeftRanges n then .rightToLeft
  else .leftToRight

/-- Whether a class calls for the check. -/
def Class.turns : Class → Bool
  | .rightToLeft | .arabicDigit => true
  | _ => false

/-- The last class of a label that is not that of a mark. -/
def final? (classes : List Class) : Option Class :=
  (classes.reverse.dropWhile (· == .mark)).head?

/-- Whether a label, given by its classes, shows its direction. -/
def keepsDirection (classes : List Class) : Bool :=
  match classes.head? with
  | none => true
  | some .rightToLeft =>
    !classes.contains .leftToRight
      && !(classes.contains .digit && classes.contains .arabicDigit)
      && (final? classes).any fun k => k == .rightToLeft || k == .digit || k == .arabicDigit
  | some .leftToRight =>
    !classes.any Class.turns && (final? classes).any fun k => k == .leftToRight || k == .digit
  | some _ => false

/-- Whether the labels of a name agree with the rule: either no character turns the direction,
or every label shows its own. -/
def isConsistent (labels : List (List Char)) : Bool :=
  let classes := labels.map (·.map classOf)
  !classes.any (·.any Class.turns) || classes.all keepsDirection

end McpConsole.Url.Idna.Direction
