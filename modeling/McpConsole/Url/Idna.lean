import McpConsole.Text.Cluster.Table
import McpConsole.Text.Normal
import McpConsole.Url.Idna.Direction
import McpConsole.Url.Idna.Joining
import McpConsole.Url.Idna.Punycode
import McpConsole.Url.Idna.Table

/-!
# Internationalized domain names

The ASCII form of a domain name: characters are replaced by the ones that they stand for, capitals
by small letters among them, the name is composed, and every label that is not ASCII is written in
Punycode. A name that has no ASCII form, one whose labels leave their direction open, or one with
characters that a URL does not allow in a host, is refused.
-/

namespace McpConsole.Url.Idna

open McpConsole.Text

/-- What a character is replaced by, or nothing if it is not allowed. -/
def replacement? (c : Char) : Option (List Char) :=
  let n := c.toNat
  match runs.find? fun run => run.1 ≤ n && n ≤ run.2.1 && (n - run.1) % run.2.2.1 == 0 with
  | some (first, _, _, target) => some [Char.ofNat (target + (n - first))]
  | none =>
    if n < 0x80 then some [c]
    else
      match letters.lookup n, expansions.lookup n with
      | some other, _ => some [Char.ofNat other]
      | none, some others => some (others.map Char.ofNat)
      | none, none =>
        if inRanges ignoredRanges n then some []
        else if inRanges disallowedRanges n then none
        else some [c]

/-- The name in the characters that it stands for. -/
def mapped? (cs : List Char) : Option (List Char) :=
  (cs.mapM replacement?).map fun pieces => Normal.compose pieces.flatten

/-- Whether a character is a mark, which no label begins with. -/
def isMark (c : Char) : Bool :=
  let n := c.toNat
  (inRanges Cluster.extendRanges n || inRanges Cluster.spacingRanges n)
    && n != 0xE33 && n != 0xEB3 && n != 0x200C

/-- Whether a label in its final characters is allowed. -/
def isAllowed (label : List Char) : Bool :=
  !label.head?.any isMark && Joining.isAllowed label && mapped? label == some label

/-- A label in its own characters and in ASCII. -/
structure Label where
  text : List Char
  ascii : List Char

/-- The label that is written `label`. One that is Punycode already has to stand for a label that
is allowed and not ASCII. -/
def Label.of? (label : List Char) : Option Label :=
  if ['x', 'n', '-', '-'].isPrefixOf label then
    match Punycode.decode? (label.drop 4) with
    | none => none
    | some text =>
      if text.all (fun c => c.toNat < 0x80) || !isAllowed text || !label.all (·.toNat < 0x80) then
        none
      else some ⟨text, label⟩
  else if label.all fun c => c.toNat < 0x80 then some ⟨label, label⟩
  else if isAllowed label then some ⟨label, ['x', 'n', '-', '-'] ++ Punycode.encode label⟩
  else none

/-- The characters that no host in a URL has. -/
def isForbidden (c : Char) : Bool :=
  c.toNat ≤ 0x20 || c.toNat == 0x7F ||
    ['%', '#', '/', ':', '<', '>', '?', '@', '[', '\\', ']', '^', '|'].contains c

/-- The labels of a name, after the open label `label`. -/
def labelsFrom (label : List Char) : List Char → List (List Char)
  | [] => [label]
  | c :: cs => if c = '.' then label :: labelsFrom [] cs else labelsFrom (label ++ [c]) cs

/-- The labels of a name. -/
def labels (cs : List Char) : List (List Char) :=
  labelsFrom [] cs

/-- A domain name in ASCII. -/
def toAscii? (cs : List Char) : Option (List Char) := do
  let name ← mapped? cs
  let all ← (labels name).mapM Label.of?
  let ascii := List.intercalate ['.'] (all.map (·.ascii))
  if ascii.any isForbidden || !Direction.isConsistent (all.map (·.text)) then none
  else some ascii

end McpConsole.Url.Idna
