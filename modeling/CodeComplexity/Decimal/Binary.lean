/-!
# Floating-point numbers as exact fractions

A double is a sign, a mantissa and a power of two, or one of the values that are no number.
`FloatParts.ofFloat` reads these off the bits, so that what is written about a number can be worked
out with natural numbers alone.  `ofDecimal` goes the other way, from decimal digits to the nearest
double.
-/

namespace CodeComplexity.Decimal

/-- What a double stands for: `mantissa * 2 ^ exponent`, an infinity, or no number. -/
inductive FloatParts where
  | notANumber
  | infinite (negative : Bool)
  | finite (negative : Bool) (mantissa : Nat) (exponent : Int)
  deriving DecidableEq, Repr

/-- The leading bit of the mantissa of most doubles, which is not written down: `2 ^ 52`. -/
def leadingBit : Nat := 0x10000000000000

def FloatParts.ofFloat (number : Float) : FloatParts :=
  let bits : Nat := number.toBits.toNat
  let negative := bits >>> 63 == 1
  let biased : Nat := (bits >>> 52) % 2048
  let fraction : Nat := bits % leadingBit
  if biased = 2047 then
    if fraction = 0 then .infinite negative else .notANumber
  else if biased = 0 then .finite negative fraction (-1074)
  else .finite negative (leadingBit + fraction) ((biased : Int) - 1075)

/-- A fraction of natural numbers; the divisor is positive in every use. -/
structure Fraction where
  dividend : Nat
  divisor : Nat
  deriving DecidableEq, Repr

/-- `mantissa * 2 ^ exponent` as a fraction. -/
def Fraction.ofBinary (mantissa : Nat) (exponent : Int) : Fraction :=
  ⟨mantissa <<< exponent.toNat, 1 <<< (-exponent).toNat⟩

/-- The fraction in units of `10 ^ place`. -/
def Fraction.inUnits (fraction : Fraction) (place : Int) : Fraction :=
  ⟨fraction.dividend * Nat.pow 10 (-place).toNat, fraction.divisor * Nat.pow 10 place.toNat⟩

def digitCount (number : Nat) : Nat :=
  (Nat.toDigits 10 number).length

/-- The integer that a double stands for, if it stands for one. -/
def toInt? (number : Float) : Option Int :=
  match FloatParts.ofFloat number with
  | .finite negative mantissa exponent =>
    let value := Fraction.ofBinary mantissa exponent
    if value.dividend % value.divisor = 0 then
      let size : Int := value.dividend / value.divisor
      some (if negative then -size else size)
    else none
  | .infinite _ | .notANumber => none

/-- The first integer that is too large for a signed word of sixty-four bits: `2 ^ 63`. -/
def wordBound : Int := 0x8000000000000000

/-- Whether an integer fits into a signed word. -/
def fitsWord (number : Int) : Bool :=
  -wordBound ≤ number && number < wordBound

/-- Whether an integer fits into a signed word and is not the least of them. -/
def strictlyFitsWord (number : Int) : Bool :=
  -wordBound < number && number < wordBound

/-- The double nearest to `digits * 10 ^ exponent`.  Numbers that lie far outside the range of
doubles are settled by their size alone. -/
def ofDecimal (negative : Bool) (digits : Nat) (exponent : Int) : Float :=
  let size : Float :=
    if digits = 0 then 0
    else
      let point := digitCount digits + exponent
      if point > 400 then Float.ofBits 0x7FF0000000000000
      else if point < -400 then 0
      else Float.ofScientific digits (exponent < 0) exponent.natAbs
  if negative then -size else size

def ofInt (number : Int) : Float :=
  ofDecimal (number < 0) number.natAbs 0

end CodeComplexity.Decimal
