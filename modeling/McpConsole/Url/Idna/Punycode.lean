/-!
# Punycode

A label with characters beyond ASCII is written with ASCII letters and digits only: first the
ASCII characters of the label, then, in the order of their code points, where the others go. Each
place is the difference to the one before it, as a number with digits of varying weight, which
adapt to the differences seen so far.
-/

namespace McpConsole.Url.Punycode

/-- The digit with a value below 36. -/
def digit (n : Nat) : Char :=
  if n < 26 then Char.ofNat (n + 'a'.toNat) else Char.ofNat (n - 26 + '0'.toNat)

/-- The value of a digit. -/
def digitValue? (c : Char) : Option Nat :=
  if 'a' ≤ c ∧ c ≤ 'z' then some (c.toNat - 'a'.toNat)
  else if 'A' ≤ c ∧ c ≤ 'Z' then some (c.toNat - 'A'.toNat)
  else if '0' ≤ c ∧ c ≤ '9' then some (c.toNat - '0'.toNat + 26)
  else none

/-- The least value of a digit at a place that ends a number. -/
def threshold (place bias : Nat) : Nat :=
  if place ≤ bias + 1 then 1 else if bias + 26 ≤ place then 26 else place - bias

/-- A difference divided until it is small, and 36 for each division. -/
def shrink (delta places : Nat) : Nat × Nat :=
  if h : 455 < delta then shrink (delta / 35) (places + 36) else (delta, places)
termination_by delta
decreasing_by omega

/-- The bias after a difference, with `count` characters placed. -/
def adapt (delta count : Nat) (isFirst : Bool) : Nat :=
  let scaled := if isFirst then delta / 700 else delta / 2
  let (small, places) := shrink (scaled + scaled / count) 0
  places + 36 * small / (small + 38)

/-- The bias and the first code point that is not ASCII, with which every label begins. -/
def firstBias : Nat := 72
/-- The first code point that is not ASCII. -/
def firstCode : Nat := 128

/-- The digits of a difference from a place on. -/
def digits (bias place delta : Nat) : List Char :=
  let t := threshold place bias
  if h : delta < t ∨ t < 1 ∨ 26 < t then [digit delta]
  else digit (t + (delta - t) % (36 - t)) :: digits bias (place + 36) ((delta - t) / (36 - t))
termination_by delta
decreasing_by
  have h1 : 1 < 36 - threshold place bias := by omega
  have h2 : 0 < delta := by omega
  calc (delta - threshold place bias) / (36 - threshold place bias)
      ≤ delta / (36 - threshold place bias) := Nat.div_le_div_right (by omega)
    _ < delta := Nat.div_lt_self h2 h1

/-- What has been written of a label: the digits, the difference that is being counted, the number
of characters placed and the bias. -/
structure Draft where
  written : List Char
  delta : Nat
  placed : Nat
  bias : Nat

/-- The draft after a character of the label, when characters with the code point `code` are being
placed. -/
def Draft.pass (basic code : Nat) (draft : Draft) (c : Char) : Draft :=
  if c.toNat < code then { draft with delta := draft.delta + 1 }
  else if c.toNat = code then
    { written := draft.written ++ digits draft.bias 36 draft.delta
      delta := 0
      placed := draft.placed + 1
      bias := adapt draft.delta (draft.placed + 1) (draft.placed == basic) }
  else draft

/-- A label in ASCII. The code points beyond ASCII are placed in increasing order. -/
def encode (cs : List Char) : List Char :=
  let basic := cs.filter fun c => c.toNat < firstCode
  let codes := ((cs.map Char.toNat).filter fun n => firstCode ≤ n).mergeSort.eraseDups
  let start : Draft := ⟨[], 0, basic.length, firstBias⟩
  let place := fun (state : Draft × Nat) (code : Nat) =>
    let skipped := (code - state.2) * (state.1.placed + 1)
    let draft := cs.foldl (Draft.pass basic.length code)
      { state.1 with delta := state.1.delta + skipped }
    ({ draft with delta := draft.delta + 1 }, code + 1)
  let draft := (codes.foldl place (start, firstCode)).1
  basic ++ (if basic.isEmpty then [] else ['-']) ++ draft.written

/-- What has been read of a label: its characters, the place and the code point of the last one
that was placed, the bias, and the number that is being read with its weight and place. -/
structure Reading where
  chars : List Char
  index : Nat
  code : Nat
  bias : Nat
  start : Nat
  weight : Nat
  place : Nat

/-- Whether a code point is a character. -/
def isScalar (n : Nat) : Bool :=
  n < 0xD800 || (0xDFFF < n && n < 0x110000)

/-- What has been read after one digit more. -/
def Reading.step (r : Reading) (c : Char) : Option Reading := do
  let value ← digitValue? c
  let index := r.index + value * r.weight
  let t := threshold r.place r.bias
  if t ≤ value then
    some { r with index := index, weight := r.weight * (36 - t), place := r.place + 36 }
  else
    let count := r.chars.length + 1
    let code := r.code + index / count
    let index := index % count
    if isScalar code then
      some
        { chars := r.chars.take index ++ Char.ofNat code :: r.chars.drop index
          index := index + 1
          code := code
          bias := adapt (r.index + value * r.weight - r.start) count (r.start == 0)
          start := index + 1
          weight := 1
          place := 36 }
    else none

/-- The label that a text in ASCII stands for. What comes before the last hyphen is taken over. -/
def decode? (cs : List Char) : Option (List Char) := do
  let tail := cs.reverse.takeWhile (· != '-')
  let hasBasic := tail.length < cs.length
  let basic := if hasBasic then cs.take (cs.length - tail.length - 1) else []
  let rest := if hasBasic ∧ basic.isEmpty then cs else tail.reverse
  let read ← rest.foldlM Reading.step ⟨basic, 0, firstCode, firstBias, 0, 1, 36⟩
  if read.place = 36 ∧ read.weight = 1 then some read.chars else none

end McpConsole.Url.Punycode
