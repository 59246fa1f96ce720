import McpConsole.Text.Width.Ligature
import McpConsole.Text.Width.Table

/-!
# Widths in terminal columns

`Width.ofChar` is the number of columns of one character taken alone, and `Width.columns` the
number of columns of a text, in which neighbours matter: a line break after a carriage return, an
emoji with a selector, a modifier or a joiner after it, flags, and letters that join into one.

A text is measured from its end, because what a character takes depends only on what comes after
it. `Ahead` is all that has to be known of the rest. What a character adds can be less than nothing,
where it joins a letter that has been counted already.
-/

namespace McpConsole.Text.Width

/-- The columns of a character taken alone; control characters take none, and one Khmer sign, written
as three characters are, takes three. -/
def ofChar (c : Char) : Nat :=
  let n := c.toNat
  if n < 0x20 then 0
  else if n < 0x7F then 1
  else if n < 0xA0 then 0
  else if n == 0x17D8 then 3
  else if inRanges zeroRanges n then 0
  else if inRanges wideRanges n then 2
  else 1

/-- The columns of a text when every character is taken alone. -/
def sum (cs : List Char) : Nat :=
  (cs.map ofChar).foldr (· + ·) 0

/-! ### What a text begins with -/

/-- What a text begins with, as far as the character before it is concerned, selectors left out. -/
inductive Start where
  /-- Nothing of interest. -/
  | plain
  /-- A line feed. -/
  | lineFeed
  /-- A letter of a ligature, perhaps after marks; `joiner` when a joiner is among them. -/
  | joining (letter : Letter) (joiner : Bool)
  /-- A skin tone modifier. -/
  | modifier
  /-- An emoji. -/
  | emoji
  /-- A regional indicator. -/
  | indicator
  /-- Regional indicators, two or more. -/
  | indicators
  /-- A joiner and an emoji after it. -/
  | joined
  /-- The keycap sign, a joiner and an emoji after it. -/
  | keycap
  /-- A regional indicator, a joiner and an emoji after it. -/
  | joinedIndicator
  /-- Regional indicators in even number, a joiner and an emoji after it. -/
  | joinedEven
  /-- Regional indicators in odd number, three or more, a joiner and an emoji after it. -/
  | joinedOdd
  /-- The end of a flag's tags, a joiner and an emoji after it: so many letters and, before them,
  digits have been seen. -/
  | tags (letters digits : Nat)
  deriving DecidableEq, Repr

/-- The selectors that choose the form of the character before them. -/
inductive Selector where
  /-- An emoji. -/
  | emoji
  /-- A text symbol. -/
  | text
  /-- The wide form of a quotation mark. -/
  | wide
  deriving DecidableEq, Repr

/-- What a text begins with, as far as the character before it is concerned. -/
structure Ahead where
  selector : Option Selector
  start : Start
  deriving DecidableEq, Repr

/-- A text that is nothing to the character before it. -/
def Ahead.plain : Ahead :=
  ⟨none, .plain⟩

/-! ### Properties of code points -/

/-- Whether the emoji selector makes an emoji of the character. -/
def takesEmoji (n : Nat) : Bool :=
  inRanges variationRanges n

/-- Whether the text selector makes a narrow symbol of the character: those that are emoji of
themselves and not ideographs. -/
def takesText (n : Nat) : Bool :=
  inRanges variationRanges n && inRanges emojiRanges n && !(0x3000 ≤ n && n ≤ 0x3300)
    && !(0x1F200 ≤ n && n ≤ 0x1F2FF)

/-- Whether the wide selector makes a wide quotation mark of the character. -/
def takesWide (n : Nat) : Bool :=
  inRanges [(0x2018, 0x2019), (0x201C, 0x201D)] n

/-- Whether the character is a skin tone modifier. -/
def isModifier (n : Nat) : Bool :=
  0x1F3FB ≤ n && n ≤ 0x1F3FF

/-- Whether the character is a regional indicator, which is half of a flag. -/
def isIndicator (n : Nat) : Bool :=
  0x1F1E6 ≤ n && n ≤ 0x1F1FF

/-- Whether the letter can still be joined from before the character: alef over the marks that are
transparent to joining, the Kirat Rai vowels over nothing, and the others over a joiner and ignorable
marks. -/
def Letter.reachesOver (c : Char) : Letter → Bool
  | .alef => 0xA0 < c.toNat && ofChar c == 0 && !inRanges opaqueRanges c.toNat
  | .vowelE | .vowelAi => false
  | _ => c.toNat == 0x200D || inRanges ignorableRanges c.toNat

/-! ### One character more -/

/-- The columns of a character and what it is to the character before it, when nothing after it
changes what it takes. -/
def alone (c : Char) : Int × Start :=
  match letter? c.toNat with
  | some letter => (1, .joining letter false)
  | none =>
    (ofChar c,
      if isModifier c.toNat then .modifier
      else if isIndicator c.toNat then .indicator
      else if inRanges emojiRanges c.toNat then .emoji
      else .plain)

/-- A joiner before an emoji, which begins a joined sequence. -/
def joiner? (n : Nat) : Option (Int × Start) :=
  if n == 0x200D then some (0, .joined) else none

/-- What a character adds in front of a text that changes what it takes, and what it is then to the
character before it. -/
def Start.join? (c : Char) : Start → Option (Int × Start)
  | .plain | .lineFeed | .keycap => none
  | .joining letter joiner =>
    if letter.reachesOver c then some (0, .joining letter (joiner || c.toNat == 0x200D))
    else (ligature? c.toNat letter joiner).map fun g =>
      (g.width, g.next.elim .plain fun next => .joining next false)
  | .modifier =>
    if inRanges modifierBaseRanges c.toNat then some (0, .emoji) else joiner? c.toNat
  | .emoji => joiner? c.toNat
  | .indicator => if isIndicator c.toNat then some (1, .indicators) else none
  | .indicators => if isIndicator c.toNat then some (1, .indicators) else joiner? c.toNat
  | .joined =>
    if c.toNat == 0x20E3 then some (0, .keycap)
    else if c.toNat == 0xE007F then some (0, .tags 0 0)
    else if isModifier c.toNat then some (0, .modifier)
    else if isIndicator c.toNat then some (1, .joinedIndicator)
    else if inRanges emojiRanges c.toNat then some (0, .emoji)
    else none
  | .joinedIndicator => if isIndicator c.toNat then some (-1, .joinedEven) else none
  | .joinedEven => if isIndicator c.toNat then some (3, .joinedOdd) else joiner? c.toNat
  | .joinedOdd => if isIndicator c.toNat then some (-1, .joinedEven) else joiner? c.toNat
  | .tags letters digits =>
    -- a flag is tagged by three letters or more, or by three digits and letters behind them
    if 0xE0061 ≤ c.toNat && c.toNat ≤ 0xE007A && digits == 0 && letters < 6 then
      some (0, .tags (letters + 1) 0)
    else if 0xE0030 ≤ c.toNat && c.toNat ≤ 0xE0039 && digits < 3 && (0 < digits || letters < 5) then
      some (0, .tags letters (digits + 1))
    else if c.toNat == 0x1F3F4 && (digits == 3 || (digits == 0 && 3 ≤ letters)) then some (0, .emoji)
    else none

/-- What is left of a text for the characters before a selector that chose nothing: a letter can
still be joined, all else is out of reach. -/
def Ahead.passed (ahead : Ahead) : Start :=
  match ahead.selector, ahead.start with
  | none, start => start
  | some _, .joining letter joiner => .joining letter joiner
  | some _, _ => .plain

/-- What a selector keeps in reach of the text after it. -/
def Start.behind (selector : Selector) : Start → Start
  | .joining .vowelE _ | .joining .vowelAi _ => .plain
  | .joining letter joiner => .joining letter joiner
  | .joined => if selector = .emoji then .joined else .plain
  | .keycap => if selector = .emoji then .keycap else .plain
  | _ => .plain

/-- The selector that a code point is, if it is one. -/
def selector? (n : Nat) : Option Selector :=
  if n == 0xFE0F then some .emoji
  else if n == 0xFE0E then some .text
  else if n == 0xFE01 then some .wide
  else none

/-- The columns that a character adds in front of a text, and what it is to the character before
it. -/
def step (c : Char) (ahead : Ahead) : Int × Ahead :=
  if ahead.selector = some .emoji ∧ takesEmoji c.toNat then
    (if ahead.start = .joined ∨ ahead.start = .keycap then 0 else 2, ⟨none, .emoji⟩)
  else if c.toNat ≤ 0xA0 then
    (if c = '\r' ∧ ahead.start = .lineFeed then 0 else 1,
      ⟨none, if c = '\n' then .lineFeed else .plain⟩)
  else match selector? c.toNat with
    | some selector => (0, ⟨some selector, ahead.passed.behind selector⟩)
    | none =>
      if ahead.selector = some .text ∧ takesText c.toNat then (1, .plain)
      else if ahead.selector = some .wide ∧ takesWide c.toNat then (2, .plain)
      else
        let own := (ahead.passed.join? c).getD (alone c)
        (own.1, ⟨none, own.2⟩)

/-- The columns of a text and what it is to a character before it. -/
def measure (cs : List Char) : Int × Ahead :=
  cs.foldr (fun c rest => let own := step c rest.2; (own.1 + rest.1, own.2)) (0, .plain)

/-- The columns of a text. -/
def columns (cs : List Char) : Nat :=
  (measure cs).1.toNat

end McpConsole.Text.Width
