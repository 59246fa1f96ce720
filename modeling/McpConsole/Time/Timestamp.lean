import McpConsole.Time.Civil
import McpConsole.Text.Blank
import McpConsole.Text.Decimal

/-!
# Timestamps

An instant in UTC, and the reader of the forms in which servers send one: a date and a time with
an offset, the same without an offset (then in UTC), or a date alone.

The form with an offset is strict: every field has its full number of digits. The forms without
one allow blanks before a number, fewer digits, and years with a sign and more digits.
-/

namespace McpConsole.Time

open McpConsole.Text

/-- An instant: seconds since 1970-01-01 00:00:00 UTC, and nanoseconds. A leap second counts as
the second before it with a billion nanoseconds more. -/
structure Timestamp where
  seconds : Int
  nanos : Nat
  deriving DecidableEq, Repr

namespace Timestamp

/-- The number of seconds of a day. -/
def daySeconds : Int := 86400

/-- The number of the day in UTC. -/
def day (t : Timestamp) : Int :=
  t.seconds / daySeconds

/-- The seconds since the day in UTC began; a leap second is not counted. -/
def secondOfDay (t : Timestamp) : Nat :=
  (t.seconds % daySeconds).toNat

/-- The beginning of the day in UTC. -/
def midnight (t : Timestamp) : Timestamp :=
  ⟨t.day * daySeconds, 0⟩

end Timestamp

/-- A time of day as it is written; second 60 is a leap second. -/
structure Clock where
  hour : Nat
  minute : Nat
  second : Nat
  nanos : Nat
  deriving DecidableEq, Repr

/-- The instant of a date and a time at an offset, in seconds, east of UTC. Numbers that name no
date or no time of day name no instant. -/
def instant (date : Date) (clock : Clock) (offset : Int) : Option Timestamp :=
  if date.isValid && clock.hour < 24 && clock.minute < 60 && clock.second ≤ 60 then
    let leap := clock.second == 60
    let second := if leap then 59 else clock.second
    let seconds := date.toDays * Timestamp.daySeconds
      + (clock.hour * 3600 + clock.minute * 60 + second : Nat) - offset
    some ⟨seconds, clock.nanos + if leap then 1000000000 else 0⟩
  else none

namespace Reader

/-- The rest of a text after a character that has to come first. -/
def char? (wanted : Char) : List Char → Option (List Char)
  | [] => none
  | c :: cs => if c = wanted then some cs else none

/-- The fraction of a second in nanoseconds: a point and digits, of which the first nine count. No
point is no fraction. -/
def fraction? : List Char → Option (Nat × List Char)
  | '.' :: cs =>
    let run := cs.takeWhile Char.isDigit
    let counted := run.take 9
    if run.isEmpty then none
    else some (Decimal.value counted * Nat.pow 10 (9 - counted.length), cs.drop run.length)
  | cs => some (0, cs)

/-- The offset from UTC in seconds: `Z`, or a sign, two digits, a colon and two digits, less than
a day. -/
def offset? : List Char → Option (Int × List Char)
  | 'Z' :: cs => some (0, cs)
  | 'z' :: cs => some (0, cs)
  | [] => none
  | sign :: cs =>
    if sign = '+' ∨ sign = '-' ∨ sign = '−' then do
      let (hours, cs) ← Decimal.read? 2 2 cs
      let cs ← char? ':' cs
      let (minutes, cs) ← Decimal.read? 2 2 cs
      if hours < 24 ∧ minutes < 60 then
        let size : Int := (hours * 3600 + minutes * 60 : Nat)
        some (if sign = '+' then size else -size, cs)
      else none
    else none

/-- An instant with its offset. -/
def withOffset? (cs : List Char) : Option Timestamp := do
  let (year, cs) ← Decimal.read? 4 4 cs
  let cs ← char? '-' cs
  let (month, cs) ← Decimal.read? 2 2 cs
  let cs ← char? '-' cs
  let (day, cs) ← Decimal.read? 2 2 cs
  let cs ← (char? 'T' cs).or ((char? 't' cs).or (char? ' ' cs))
  let (hour, cs) ← Decimal.read? 2 2 cs
  let cs ← char? ':' cs
  let (minute, cs) ← Decimal.read? 2 2 cs
  let cs ← char? ':' cs
  let (second, cs) ← Decimal.read? 2 2 cs
  let (nanos, cs) ← fraction? cs
  let (offset, cs) ← offset? cs
  if cs.isEmpty then instant ⟨year, month, day⟩ ⟨hour, minute, second, nanos⟩ offset else none

/-- A number of one or two digits after blanks. -/
def field? (cs : List Char) : Option (Nat × List Char) :=
  Decimal.read? 1 2 (trimStart cs)

/-- A year after blanks: up to four digits, or a sign and any number of digits. -/
def year? (cs : List Char) : Option (Int × List Char) :=
  match trimStart cs with
  | '-' :: cs => (Decimal.read? 1 cs.length cs).map fun (n, rest) => (-(n : Int), rest)
  | '+' :: cs => (Decimal.read? 1 cs.length cs).map fun (n, rest) => ((n : Int), rest)
  | cs => (Decimal.read? 1 4 cs).map fun (n, rest) => ((n : Int), rest)

/-- A date: a year, a month and a day. -/
def date? (cs : List Char) : Option (Date × List Char) := do
  let (year, cs) ← year? cs
  let cs ← char? '-' cs
  let (month, cs) ← field? cs
  let cs ← char? '-' cs
  let (day, cs) ← field? cs
  some (⟨year, month, day⟩, cs)

/-- A time of day: hours, minutes and seconds, perhaps with a fraction. -/
def clock? (cs : List Char) : Option (Clock × List Char) := do
  let (hour, cs) ← field? cs
  let cs ← char? ':' cs
  let (minute, cs) ← field? cs
  let cs ← char? ':' cs
  let (second, cs) ← field? cs
  let (nanos, cs) ← fraction? cs
  some (⟨hour, minute, second, nanos⟩, cs)

/-- A date and a time in UTC, with what `between` reads between them. -/
def inUtc? (between : List Char → Option (List Char)) (cs : List Char) : Option Timestamp := do
  let (date, cs) ← date? cs
  let cs ← between cs
  let (clock, cs) ← clock? cs
  if cs.isEmpty then instant date clock 0 else none

/-- The beginning of a day in UTC. -/
def dateAlone? (cs : List Char) : Option Timestamp := do
  let (date, cs) ← date? cs
  if cs.isEmpty then instant date ⟨0, 0, 0, 0⟩ 0 else none

end Reader

/-- The instant that a text names, by the first of the forms that reads the text without the
blanks around it to its end. -/
def Timestamp.parse? (cs : List Char) : Option Timestamp :=
  let cs := trim cs
  (Reader.withOffset? cs).or <|
    (Reader.inUtc? (Reader.char? 'T') cs).or <|
      (Reader.inUtc? (fun cs => some (trimStart cs)) cs).or (Reader.dateAlone? cs)

end McpConsole.Time
