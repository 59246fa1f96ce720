import McpConsole.Json.Node
import McpConsole.Text.Decimal

/-!
# The number that a numeral writes

A numeral without point and exponent that fits into 64 bits is a whole number. Any other one is a
floating point number: its digits are gathered into a whole number as long as that fits into 64
bits, this number is rounded, and then multiplied or divided, rounded again, by a power of ten.
The result can differ in the last bit from the nearest number.
-/

namespace McpConsole.Json

open McpConsole.Number (Binary Format double)
open McpConsole.Text

/-- The first number that does not fit into 64 bits. -/
def wordLimit : Nat := Nat.pow 2 64

/-- The exponents of ten are counted up to this number. -/
def exponentLimit : Nat := Nat.pow 2 31

/-- Digits gathered after a number as long as the number fits into 64 bits, and the others. -/
def gather (n : Nat) : List Char → Nat × List Char
  | [] => (n, [])
  | c :: cs =>
    let next := 10 * n + Decimal.digitValue c
    if next < wordLimit then gather next cs else (n, c :: cs)

/-- The power of ten with an exponent up to 308, as a floating point number. -/
def powerOfTen (exponent : Nat) : Binary :=
  (double.round? (Nat.pow 10 exponent) 1).getD .zero

/-- A floating point number divided by a power of ten, by at most `10 ^ 308` at a time. A number
that has come down to zero stays zero. -/
def divideByPower (x : Binary) (exponent : Nat) : Binary :=
  if x.mantissa = 0 then x
  else if _h : exponent ≤ 308 then (double.div? x (powerOfTen exponent)).getD .zero
  else divideByPower ((double.div? x (powerOfTen 308)).getD .zero) (exponent - 308)
termination_by exponent

/-- A floating point number multiplied by a power of ten, or nothing if it gets too large. -/
def multiplyByPower? (x : Binary) (exponent : Nat) : Option Binary :=
  if exponent ≤ 308 then double.mul? x (powerOfTen exponent)
  else if x.mantissa = 0 then some x
  else none

/-- The floating point number made of gathered digits and a power of ten. -/
def scale? (significand : Nat) (exponent : Int) : Option Binary :=
  let x := (double.ofNat? significand).getD .zero
  if 0 ≤ exponent then multiplyByPower? x exponent.toNat
  else some (divideByPower x (-exponent).toNat)

/-- The floating point number of gathered digits and a written exponent on top of the power of ten
that the digits have. An exponent beyond all bounds leaves nothing of the number. -/
def withExponent? (significand : Nat) (power : Int) (isNegative : Bool) (digits : List Char) :
    Option Binary :=
  let exponent := Decimal.value digits
  if exponent < exponentLimit then
    scale? significand (if isNegative then power - exponent else power + exponent)
  else if significand = 0 ∨ isNegative then some .zero
  else none

/-- The size of a numeral as a floating point number, or nothing if it is too large for one. -/
def Numeral.size? (n : Numeral) : Option Binary :=
  let (whole, dropped) := gather 0 n.whole
  let fraction := n.fraction.getD []
  let (significand, unused) := gather whole fraction
  let power : Int := dropped.length - ((fraction.length : Int) - unused.length)
  match n.exponent with
  | none => scale? significand power
  | some (isNegative, digits) => withExponent? significand power isNegative digits

/-- The number that a numeral writes, or nothing if it is too large. -/
def Numeral.number? (n : Numeral) : Option Number :=
  let (whole, dropped) := gather 0 n.whole
  if dropped.isEmpty && n.fraction.isNone && n.exponent.isNone then
    if n.isNegative then
      if 0 < whole ∧ whole ≤ Nat.pow 2 63 then some (.negative whole)
      else some (.float true ((double.ofNat? whole).getD .zero))
    else some (.nat whole)
  else n.size?.map (.float n.isNegative ·)

end McpConsole.Json
