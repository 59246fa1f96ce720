import McpConsole.Text.Ranges
import McpConsole.Text.Cluster.Table

/-!
# Clusters

The pieces of a text that a reader takes for one character: a letter with its marks, a syllable, a
flag, a family of emoji. `Past` is all that has to be known of the text before a character to tell
whether the character belongs to the same cluster, and `clusters` cuts a text into its clusters.
-/

namespace McpConsole.Text.Cluster

/-- What a character is to its neighbours. -/
inductive Kind where
  | carriageReturn
  | lineFeed
  | control
  | extend
  | joiner
  | spacing
  | prepended
  | regional
  | leading
  | vowel
  | trailing
  | openSyllable
  | closedSyllable
  | other
  deriving DecidableEq, Repr

/-- What a character is to its neighbours. Precomposed syllables stand in groups of 28, of which
the first is open. -/
def kind (n : Nat) : Kind :=
  if 0x20 ≤ n ∧ n < 0x7F then .other
  else if n = 13 then .carriageReturn
  else if n = 10 then .lineFeed
  else if inRanges controlRanges n then .control
  else if n < 0x300 then .other
  else if n = 0x200D then .joiner
  else if inRanges extendRanges n then .extend
  else if inRanges spacingRanges n then .spacing
  else if inRanges prependRanges n then .prepended
  else if 0x1F1E6 ≤ n ∧ n ≤ 0x1F1FF then .regional
  else if inRanges [(0x1100, 0x115F), (0xA960, 0xA97C)] n then .leading
  else if inRanges [(0x1160, 0x11A7), (0xD7B0, 0xD7C6), (0x16D63, 0x16D63), (0x16D67, 0x16D6A)] n
  then .vowel
  else if inRanges [(0x11A8, 0x11FF), (0xD7CB, 0xD7FB)] n then .trailing
  else if 0xAC00 ≤ n ∧ n ≤ 0xD7A3 then
    if (n - 0xAC00) % 28 = 0 then .openSyllable else .closedSyllable
  else .other

/-- How far a symbol of several parts has come. -/
inductive Progress where
  | none
  /-- The first part is there, perhaps with marks. -/
  | begun
  /-- A sign that asks for another part is there. -/
  | linked
  deriving DecidableEq, Repr

/-- What has to be known of the text before a character. -/
structure Past where
  /-- What the last character is. -/
  last : Kind
  /-- Whether an odd number of regional letters stands at the end. -/
  oddRegional : Bool
  /-- Pictographs with a joiner. -/
  picture : Progress
  /-- Consonants with a linking sign. -/
  conjunct : Progress
  deriving DecidableEq, Repr

/-- Whether the character is a pictograph. -/
def isPictograph (n : Nat) : Bool :=
  0x7F ≤ n && inRanges pictographRanges n

/-- Whether the character is a consonant that can be linked. -/
def isConsonant (n : Nat) : Bool :=
  0x300 ≤ n && inRanges conjunctRanges n

/-- Whether the character links consonants. -/
def isLinker (n : Nat) : Bool :=
  0x300 ≤ n && inRanges linkerRanges n

/-- The progress of a picture after a character. -/
def pictureAfter (p : Progress) (kind : Kind) (n : Nat) : Progress :=
  if isPictograph n then .begun
  else
    match p, kind with
    | .begun, .extend => .begun
    | .begun, .joiner => .linked
    | _, _ => .none

/-- The progress of a conjunct after a character. -/
def conjunctAfter (p : Progress) (kind : Kind) (n : Nat) : Progress :=
  if isConsonant n then .begun
  else if p = .none then .none
  else if isLinker n then .linked
  else if kind = .joiner ∨ (kind = .extend ∧ n ≠ 0x200C) then p
  else .none

/-- What has to be known after a character. -/
def Past.after (p : Past) (n : Nat) : Past :=
  let kind := kind n
  ⟨kind, kind == .regional && !p.oddRegional, pictureAfter p.picture kind n,
    conjunctAfter p.conjunct kind n⟩

/-- What is known at the beginning of a text. -/
def Past.start : Past :=
  ⟨.control, false, .none, .none⟩

/-- Whether a character belongs to the cluster before it. -/
def joins (p : Past) (n : Nat) : Bool :=
  match p.last, kind n with
  | .carriageReturn, .lineFeed => true
  | .carriageReturn, _ => false
  | .lineFeed, _ => false
  | .control, _ => false
  | _, .carriageReturn => false
  | _, .lineFeed => false
  | _, .control => false
  | _, .extend => true
  | _, .joiner => true
  | _, .spacing => true
  | .prepended, _ => true
  | .leading, .leading => true
  | .leading, .vowel => true
  | .leading, .openSyllable => true
  | .leading, .closedSyllable => true
  | .openSyllable, .vowel => true
  | .openSyllable, .trailing => true
  | .vowel, .vowel => true
  | .vowel, .trailing => true
  | .closedSyllable, .trailing => true
  | .trailing, .trailing => true
  | .regional, .regional => p.oddRegional
  | _, _ => (p.picture == .linked && isPictograph n) || (p.conjunct == .linked && isConsonant n)

/-- The clusters of a text after the open cluster `pending`, which is kept in reverse. -/
def clustersFrom (p : Past) (pending : List Char) : List Char → List (List Char)
  | [] => if pending.isEmpty then [] else [pending.reverse]
  | c :: cs =>
    let n := c.toNat
    if !pending.isEmpty && joins p n then clustersFrom (p.after n) (c :: pending) cs
    else if pending.isEmpty then clustersFrom (p.after n) [c] cs
    else pending.reverse :: clustersFrom (p.after n) [c] cs

/-- The clusters of a text. -/
def clusters (cs : List Char) : List (List Char) :=
  clustersFrom .start [] cs

end McpConsole.Text.Cluster
