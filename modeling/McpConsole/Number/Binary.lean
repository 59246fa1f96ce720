/-!
# Binary floating point

Non-negative numbers `mantissa * 2 ^ exponent`, as fixed-size floating point formats hold them,
and rounding of a fraction to such a number, a tie to the even mantissa. Arithmetic is exact on
natural numbers and rounded once, which is what the formats ask for.
-/

namespace McpConsole.Number

/-- The number `mantissa * 2 ^ exponent`. -/
structure Binary where
  mantissa : Nat
  exponent : Int
  deriving DecidableEq, Repr

/-- A floating point format: the bits of the mantissa, and the least and greatest exponent. -/
structure Format where
  precision : Nat
  leastExponent : Int
  greatestExponent : Int
  deriving DecidableEq, Repr

/-- The format of 64 bits. -/
def double : Format := ⟨53, -1074, 971⟩

/-- The format of 32 bits. -/
def single : Format := ⟨24, -149, 104⟩

namespace Binary

/-- Zero. -/
def zero : Binary := ⟨0, 0⟩

/-- The numerator of the number as a fraction. -/
def num (x : Binary) : Nat :=
  x.mantissa * Nat.pow 2 x.exponent.toNat

/-- The denominator of the number as a fraction. -/
def den (x : Binary) : Nat :=
  Nat.pow 2 (-x.exponent).toNat

end Binary

/-- A fraction rounded to a whole number, a tie to the even neighbour. -/
def roundHalfEven (num den : Nat) : Nat :=
  let floor := num / den
  let twice := 2 * (num % den)
  if twice < den then floor
  else if den < twice then floor + 1
  else if floor % 2 = 0 then floor else floor + 1

namespace Format

/-- The exponent at which a positive fraction has as many bits before its point as the format
has, or the least exponent. -/
def exponentFor (format : Format) (num den : Nat) : Int :=
  let guess : Int := (num.log2 : Int) - den.log2 - format.precision
  let scaled (e : Int) : Nat := num * Nat.pow 2 (-e).toNat / (den * Nat.pow 2 e.toNat)
  let exponent := if scaled guess < Nat.pow 2 format.precision then guess else guess + 1
  max format.leastExponent exponent

/-- A fraction rounded to the format, or nothing if it is too large for it. -/
def round? (format : Format) (num den : Nat) : Option Binary :=
  if num = 0 then some .zero
  else
    let exponent := format.exponentFor num den
    let mantissa :=
      roundHalfEven (num * Nat.pow 2 (-exponent).toNat) (den * Nat.pow 2 exponent.toNat)
    let rounded : Binary :=
      if mantissa = Nat.pow 2 format.precision then
        ⟨Nat.pow 2 (format.precision - 1), exponent + 1⟩
      else ⟨mantissa, exponent⟩
    if mantissa = 0 then some .zero
    else if format.greatestExponent < rounded.exponent then none
    else some rounded

/-- A product rounded to the format. -/
def mul? (format : Format) (x y : Binary) : Option Binary :=
  format.round? (x.num * y.num) (x.den * y.den)

/-- A sum rounded to the format. -/
def add? (format : Format) (x y : Binary) : Option Binary :=
  format.round? (x.num * y.den + y.num * x.den) (x.den * y.den)

/-- A quotient rounded to the format. -/
def div? (format : Format) (x y : Binary) : Option Binary :=
  format.round? (x.num * y.den) (x.den * y.num)

/-- A whole number rounded to the format. -/
def ofNat? (format : Format) (n : Nat) : Option Binary :=
  format.round? n 1

end Format

end McpConsole.Number
