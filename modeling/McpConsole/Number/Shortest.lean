import McpConsole.Number.Binary

/-!
# The shortest decimal of a number

The decimal with the fewest digits among those that are rounded to a given number of a format, and
of these the nearest to it. A decimal is a run of significant digits and the power of ten of its
first digit.
-/

namespace McpConsole.Number

/-- The decimal `d.ddd * 10 ^ exponent`, with `digits` read as a whole number of `count` digits. -/
structure Decimal where
  digits : Nat
  count : Nat
  exponent : Int
  deriving DecidableEq, Repr

/-- The power of ten of the first significant digit of a positive fraction: the guess by the
number of digits of its parts, or one less. -/
def leadingPower (num den : Nat) : Int :=
  let length (n : Nat) : Int := (Nat.toDigits 10 n).length
  let guess := length num - length den
  if den * Nat.pow 10 guess.toNat ≤ num * Nat.pow 10 (-guess).toNat then guess else guess - 1

/-- The decimal with `count` digits nearest to a positive fraction. -/
def nearestDecimal (num den count : Nat) : Decimal :=
  let power := leadingPower num den
  let shift : Int := count - 1 - power
  let digits := roundHalfEven (num * Nat.pow 10 shift.toNat) (den * Nat.pow 10 (-shift).toNat)
  if digits = Nat.pow 10 count then ⟨Nat.pow 10 (count - 1), count, power + 1⟩
  else ⟨digits, count, power⟩

/-- Whether a decimal is rounded to a number of a format. -/
def Decimal.readsAs (format : Format) (d : Decimal) (x : Binary) : Bool :=
  let scale : Int := d.exponent - (d.count - 1)
  format.round? (d.digits * Nat.pow 10 scale.toNat) (Nat.pow 10 (-scale).toNat) == some x

/-- The shortest decimal of a positive number of a format of 64 bits or fewer, for which seventeen
digits are always enough. -/
def shortestDecimal (format : Format) (x : Binary) : Decimal :=
  let candidates := (List.range 17).map fun n => nearestDecimal x.num x.den (n + 1)
  (candidates.find? fun d => d.readsAs format x).getD (nearestDecimal x.num x.den 17)

end McpConsole.Number
