import McpConsole.Text.Ranges

/-!
# Letters that join

In a few scripts a letter and a character before it are shown as one, so that the two take fewer
columns than they take apart. `Letter` is what such a letter is to the character before it,
`letters` the code points that are one, and `ligatures` the pairs that join, the character in front
given by its ranges.
-/

namespace McpConsole.Text.Width

/-- What a letter, or a pair that has joined already, is to the character before it. -/
inductive Letter where
  /-- An Arabic alef. -/
  | alef
  /-- The Hebrew lamed. -/
  | lamed
  /-- A Khmer letter that can be written below another. -/
  | khmer
  /-- The Buginese ya. -/
  | ya
  /-- The Buginese ya with a vowel before it. -/
  | vowelYa
  /-- A Tifinagh consonant. -/
  | consonant
  /-- A Tifinagh consonant with the consonant joiner before it. -/
  | joinedConsonant
  /-- One of the last two Lisu tones. -/
  | tone
  /-- The Old Turkic letter i of the Orkhon. -/
  | orkhonI
  /-- The Kirat Rai vowel e. -/
  | vowelE
  /-- The Kirat Rai vowel ai. -/
  | vowelAi
  deriving DecidableEq, Repr

/-- The letters, each with its code points; all of them take one column. -/
def letters : List (Letter × List (Nat × Nat)) :=
  [(.alef, [(0x622, 0x623), (0x625, 0x625), (0x627, 0x627), (0x671, 0x673), (0x675, 0x675),
     (0x773, 0x774), (0x870, 0x882)]),
   (.lamed, [(0x5DC, 0x5DC)]),
   (.khmer, [(0x1780, 0x1782), (0x1784, 0x1787), (0x1789, 0x178C), (0x178E, 0x1793),
     (0x1795, 0x1798), (0x179B, 0x179D), (0x17A0, 0x17A0), (0x17A2, 0x17A2), (0x17A7, 0x17A7),
     (0x17AB, 0x17AC), (0x17AF, 0x17AF)]),
   (.ya, [(0x1A10, 0x1A10)]),
   (.consonant, [(0x2D31, 0x2D65), (0x2D6F, 0x2D6F)]),
   (.tone, [(0xA4FC, 0xA4FD)]),
   (.orkhonI, [(0x10C03, 0x10C03)]),
   (.vowelE, [(0x16D67, 0x16D67)]),
   (.vowelAi, [(0x16D68, 0x16D68)])]

/-- The letter that a code point is, if it is one. -/
def letter? (n : Nat) : Option Letter :=
  (letters.find? fun entry => inRanges entry.2 n).map Prod.fst

/-- A letter and the characters that join with it from the front. -/
structure Ligature where
  letter : Letter
  /-- Whether the two join only with a joiner between them. -/
  byJoiner : Bool
  front : List (Nat × Nat)
  /-- What the character in front adds to the columns of the letter. -/
  width : Int
  /-- What the two are to the character before them. -/
  next : Option Letter

/-- The ligatures: alef with a lam; lamed with a Hebrew alef; a Khmer letter with the sign that puts
it below another; the Buginese vowels i and a with ya; the Tifinagh consonants with their joiner and
with each other; the Lisu tones; the Old Turkic op; and the Kirat Rai vowels. -/
def ligatures : List Ligature :=
  [⟨.alef, false, [(0x644, 0x644), (0x6B5, 0x6B8), (0x76A, 0x76A), (0x8A6, 0x8A6),
     (0x8C7, 0x8C7)], 0, none⟩,
   ⟨.lamed, true, [(0x5D0, 0x5D0)], 0, none⟩,
   ⟨.khmer, false, [(0x17D2, 0x17D2)], -1, none⟩,
   ⟨.ya, true, [(0x1A17, 0x1A17)], 0, some .vowelYa⟩,
   ⟨.vowelYa, false, [(0x1A15, 0x1A15)], 0, none⟩,
   ⟨.consonant, false, [(0x2D7F, 0x2D7F)], 1, some .joinedConsonant⟩,
   ⟨.consonant, true, [(0x2D31, 0x2D65), (0x2D6F, 0x2D6F)], 0, none⟩,
   ⟨.joinedConsonant, false, [(0x2D31, 0x2D65), (0x2D6F, 0x2D6F)], -1, none⟩,
   ⟨.tone, false, [(0xA4F8, 0xA4FB)], 0, none⟩,
   ⟨.orkhonI, true, [(0x10C32, 0x10C32)], 0, none⟩,
   ⟨.vowelE, false, [(0x16D63, 0x16D63), (0x16D69, 0x16D69)], 0, none⟩,
   ⟨.vowelE, false, [(0x16D67, 0x16D67)], 0, some .vowelAi⟩,
   ⟨.vowelE, false, [(0x16D68, 0x16D68)], 1, some .vowelE⟩,
   ⟨.vowelAi, false, [(0x16D63, 0x16D63)], 0, none⟩]

/-- The ligature of a code point with the letter after it, a joiner between them or not. -/
def ligature? (n : Nat) (letter : Letter) (joiner : Bool) : Option Ligature :=
  ligatures.find? fun g =>
    decide (g.letter = letter) && (joiner || !g.byJoiner) && inRanges g.front n

end McpConsole.Text.Width
