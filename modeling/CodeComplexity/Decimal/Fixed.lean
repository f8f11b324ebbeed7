import CodeComplexity.Decimal.Binary

/-!
# Fixed decimal places

A double written with a fixed number of decimal places.  What is rounded is the exact value of the
double, and a value in the middle between two texts goes to the even last digit.
-/

namespace CodeComplexity.Decimal

/-- The integer nearest to a fraction; of two equally near ones the even one. -/
def Fraction.round (fraction : Fraction) : Nat :=
  let whole := fraction.dividend / fraction.divisor
  let rest := 2 * (fraction.dividend % fraction.divisor)
  if rest < fraction.divisor || (rest = fraction.divisor && whole % 2 = 0) then whole else whole + 1

/-- A natural number of units `10 ^ (-places)` as a decimal text. -/
def placesText (places units : Nat) : List Char :=
  let digits := Nat.toDigits 10 units
  let padded := List.replicate (places + 1 - digits.length) '0' ++ digits
  let whole := padded.length - places
  if places = 0 then padded else padded.take whole ++ '.' :: padded.drop whole

def fixedText (places : Nat) (number : Float) : String :=
  match FloatParts.ofFloat number with
  | .notANumber => "nan"
  | .infinite negative => if negative then "-inf" else "inf"
  | .finite negative mantissa exponent =>
    let units := ((Fraction.ofBinary mantissa exponent).inUnits (-(places : Int))).round
    let text := placesText places units
    String.ofList (if negative then '-' :: text else text)

end CodeComplexity.Decimal
