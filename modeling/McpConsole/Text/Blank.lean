import McpConsole.Text.Ranges

/-!
# Blanks

The characters that count as white space (the Unicode property `White_Space`), trimming by them,
and the maximal blank-free words of a text. Everything works on lists of characters; the
functions on strings at the end are what the rest of the library calls.
-/

namespace McpConsole.Text

/-- The white space characters as ranges of code points. -/
def blankRanges : List (Nat × Nat) :=
  [(9, 13), (32, 32), (0x85, 0x85), (0xA0, 0xA0), (0x1680, 0x1680), (0x2000, 0x200A),
   (0x2028, 0x2029), (0x202F, 0x202F), (0x205F, 0x205F), (0x3000, 0x3000)]

/-- Whether a character is white space. -/
def isBlank (c : Char) : Bool :=
  inRanges blankRanges c.toNat

/-- The text without its leading blanks. -/
def trimStart (cs : List Char) : List Char :=
  cs.dropWhile isBlank

/-- The text without its trailing blanks. -/
def trimEnd (cs : List Char) : List Char :=
  (cs.reverse.dropWhile isBlank).reverse

/-- The text without the blanks around it. -/
def trim (cs : List Char) : List Char :=
  trimEnd (trimStart cs)

/-- The words of a text after the open word `word`: a blank closes the open word, which counts
unless it is empty. -/
def wordsFrom (word : List Char) : List Char → List (List Char)
  | [] => if word.isEmpty then [] else [word]
  | c :: cs =>
    if isBlank c then
      if word.isEmpty then wordsFrom [] cs else word :: wordsFrom [] cs
    else
      wordsFrom (word ++ [c]) cs

/-- The maximal blank-free pieces of a text, in order. -/
def words (cs : List Char) : List (List Char) :=
  wordsFrom [] cs

/-- The string without the blanks around it. -/
def trimmed (s : String) : String :=
  String.ofList (trim s.toList)

/-- Whether a string holds nothing but blanks. -/
def isBlankText (s : String) : Bool :=
  s.toList.all isBlank

/-- The string with its ASCII capitals made small; other characters stay. -/
def lowercase (s : String) : String :=
  String.ofList (s.toList.map Char.toLower)

/-- The value itself unless it is absent or blank. -/
def nonBlank (value : Option String) : Option String :=
  value.filter fun text => !isBlankText text

/-- The trimmed value unless it is absent or blank. -/
def trimmedNonBlank (value : Option String) : Option String :=
  (nonBlank value).map trimmed

end McpConsole.Text
