import McpConsole.Time.Timestamp

/-!
# Timestamps as text

How dates and times are shown. A text that names no instant is shown as it is, without the blanks
around it, and a missing or blank one as `N/A`.
-/

namespace McpConsole.Time

open McpConsole.Text

/-- The text for a timestamp that is not there. -/
def missing : List Char :=
  "N/A".toList

/-- A year: four digits, or a sign and at least four digits when it has more or is negative. -/
def yearText (year : Int) : List Char :=
  if 0 ≤ year ∧ year ≤ 9999 then Decimal.padded 4 year.toNat
  else if 0 ≤ year then '+' :: Decimal.padded 4 year.toNat
  else '-' :: Decimal.padded 4 (-year).toNat

/-- A date with dashes between its parts. -/
def Date.text (date : Date) : List Char :=
  yearText date.year ++ '-' :: Decimal.padded 2 date.month ++ '-' :: Decimal.padded 2 date.day

namespace Timestamp

/-- The day in UTC. -/
def dateText (t : Timestamp) : List Char :=
  (Date.ofDays t.day).text

/-- The time of day in UTC. A leap second is second 60. -/
def clockText (t : Timestamp) : List Char :=
  let s := t.secondOfDay
  let leap := if 1000000000 ≤ t.nanos then 1 else 0
  Decimal.padded 2 (s / 3600) ++ ':' :: Decimal.padded 2 (s / 60 % 60) ++
    ':' :: Decimal.padded 2 (s % 60 + leap)

end Timestamp

/-- The text of a timestamp by a form for instants. -/
def display (form : Timestamp → List Char) (raw : Option String) : String :=
  match raw.map fun text => trim text.toList with
  | none => String.ofList missing
  | some [] => String.ofList missing
  | some text =>
    match Timestamp.parse? text with
    | none => String.ofList text
    | some t => String.ofList (form t)

/-- The day of a timestamp, as in `2025-03-14`. -/
def formatDate (raw : Option String) : String :=
  display Timestamp.dateText raw

/-- The day and time of a timestamp, as in `2025-03-14 09:26:53 UTC`. -/
def formatDateTime (raw : Option String) : String :=
  display (fun t => t.dateText ++ ' ' :: t.clockText ++ " UTC".toList) raw

end McpConsole.Time
