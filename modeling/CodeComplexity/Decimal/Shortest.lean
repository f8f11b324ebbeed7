import CodeComplexity.Decimal.Binary

/-!
# The shortest decimals of a double

The text of a double has the fewest digits that read back as the same double, and of those digits
the nearest ones.  The real numbers that read back as a double form an interval around it.  For ever
finer decimal grids, the two neighbours of the double on the grid are tested against that interval:
if any point of a grid lies in it, one of the neighbours does, so the first grid with a hit has the
fewest digits.
-/

namespace CodeComplexity.Decimal

/-- The number `digits * 10 ^ exponent`. -/
structure Digits where
  digits : Nat
  exponent : Int
  deriving DecidableEq, Repr

/-- The real numbers that read back as one double, in units of `unit`: everything between `low` and
`high`, with these two if `closed`. -/
structure Interval where
  low : Nat
  value : Nat
  high : Nat
  unit : Fraction
  closed : Bool
  deriving DecidableEq, Repr

/-- The interval of a positive double.  It reaches half way to both neighbours, of which the lower
one is closer where the mantissa is the least of its exponent.  A number in the middle goes to the
even mantissa. -/
def Interval.ofBinary (mantissa : Nat) (exponent : Int) : Interval where
  low := if mantissa = leadingBit && -1074 < exponent then 4 * mantissa - 1 else 4 * mantissa - 2
  value := 4 * mantissa
  high := 4 * mantissa + 2
  unit := .ofBinary 1 (exponent - 2)
  closed := mantissa % 2 = 0

/-- The point of the grid of multiples of `10 ^ place` that stands for the interval: of the two
neighbours of its value those inside, the nearer if both are, the even one if they are equally
near. -/
def Interval.pointAt? (interval : Interval) (place : Int) : Option Nat :=
  let unit := interval.unit.inUnits place
  let scaled := interval.value * unit.dividend
  let below := scaled / unit.divisor
  let above := below + 1
  let inside (first second : Nat) : Bool :=
    if interval.closed then first ≤ second else first < second
  let belowInside := inside (interval.low * unit.dividend) (below * unit.divisor)
  let aboveInside := inside (above * unit.divisor) (interval.high * unit.dividend)
  if belowInside && aboveInside then
    let twice := 2 * scaled
    let middle := (below + above) * unit.divisor
    if twice < middle || (twice = middle && below % 2 = 0) then some below else some above
  else if belowInside then some below
  else if aboveInside then some above
  else none

/-- The exponent of the leading decimal digit of a positive fraction. -/
def Fraction.leadingPlace (fraction : Fraction) : Int :=
  let guess : Int := digitCount fraction.dividend - digitCount fraction.divisor
  let scaled := fraction.inUnits guess
  if scaled.divisor ≤ scaled.dividend then guess else guess - 1

/-- Try the grids from `place` on downwards. -/
def Interval.search (interval : Interval) (place : Int) : Nat → Digits
  | 0 => ⟨(interval.pointAt? place).getD 0, place⟩
  | finer + 1 =>
    match interval.pointAt? place with
    | some point => ⟨point, place⟩
    | none => interval.search (place - 1) finer

/-- The shortest decimals of the positive double `mantissa * 2 ^ exponent`.  The coarsest grid is
the one that rounds the number to a power of ten; seventeen digits tell any two doubles apart, so no
finer grid is needed. -/
def shortest (mantissa : Nat) (exponent : Int) : Digits :=
  let leading := (Fraction.ofBinary mantissa exponent).leadingPlace
  (Interval.ofBinary mantissa exponent).search (leading + 1) 17

def isPositional (leading : Int) : Bool :=
  -4 ≤ leading && leading < 16

/-- Digits with a point, or with an exponent of at least two digits where the number is very large
or very small. -/
def Digits.text (number : Digits) : List Char :=
  let digits := Nat.toDigits 10 number.digits
  let point := digits.length + number.exponent
  let leading := point - 1
  if isPositional leading then
    if point ≤ 0 then '0' :: '.' :: List.replicate (-point).toNat '0' ++ digits
    else
      let whole := digits.take point.toNat
      let zeros := List.replicate (point.toNat - digits.length) '0'
      let part := digits.drop point.toNat
      whole ++ zeros ++ '.' :: (if part.isEmpty then ['0'] else part)
  else
    let size := Nat.toDigits 10 leading.natAbs
    let padded := if size.length < 2 then '0' :: size else size
    digits.take 1 ++ (if digits.length = 1 then [] else '.' :: digits.drop 1)
      ++ 'e' :: (if leading < 0 then '-' else '+') :: padded

/-- The text of a double: its shortest decimals, with the given words for what is no decimal. -/
def floatText (notANumber infinity : String) (number : Float) : String :=
  let signed (negative : Bool) (text : List Char) :=
    String.ofList (if negative then '-' :: text else text)
  match FloatParts.ofFloat number with
  | .notANumber => notANumber
  | .infinite negative => signed negative infinity.toList
  | .finite negative 0 _ => signed negative "0.0".toList
  | .finite negative mantissa exponent => signed negative (shortest mantissa exponent).text

end CodeComplexity.Decimal
