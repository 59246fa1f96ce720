/-!
# Whole numbers in decimal

The value of a run of decimal digits, and the digits of a number, filled up with zeros to a least
width.
-/

namespace McpConsole.Text.Decimal

/-- The value of a decimal digit. -/
def digitValue (c : Char) : Nat :=
  c.toNat - '0'.toNat

/-- The number that a run of digits writes, after digits that already wrote `n`. -/
def valueFrom (n : Nat) (cs : List Char) : Nat :=
  cs.foldl (fun n c => 10 * n + digitValue c) n

/-- The number that a run of digits writes. -/
def value (cs : List Char) : Nat :=
  valueFrom 0 cs

/-- The digits of a number. -/
def digits (n : Nat) : List Char :=
  Nat.toDigits 10 n

/-- The digits of a number after as many zeros as bring them to `width`. -/
def padded (width n : Nat) : List Char :=
  List.replicate (width - (digits n).length) '0' ++ digits n

/-- Between `least` and `most` leading digits of a text, as many as there are, and the rest. -/
def read? (least most : Nat) (cs : List Char) : Option (Nat × List Char) :=
  let run := (cs.take most).takeWhile Char.isDigit
  if run.length < least then none else some (value run, cs.drop run.length)

end McpConsole.Text.Decimal
