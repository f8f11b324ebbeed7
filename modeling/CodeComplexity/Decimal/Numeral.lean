import CodeComplexity.Decimal.Binary
import CodeComplexity.Text.Blank

/-!
# Numbers written in text

Two grammars.  A plain integer is written with an optional minus and digits without zeros in front;
what is not plain is tidied up first, which passes over blank space around it, a plus, zeros in
front, a point with zeros behind it, and single underscores between digits.  A number is written
with an optional sign, digits on at least one side of a point and perhaps an exponent, or as one of
the words for infinity and for what is no number.
-/

namespace CodeComplexity.Decimal

open Text

/-- The number that decimal digits stand for. -/
def digitsValue (digits : List Char) : Nat :=
  digits.foldl (fun number c => number * 10 + (c.toNat - '0'.toNat)) 0

/-- Whether a text has a minus in front, and the text behind its sign. -/
def splitSign : List Char → Bool × List Char
  | '-' :: rest => (true, rest)
  | '+' :: rest => (false, rest)
  | text => (false, text)

def signed (negative : Bool) (size : Nat) : Int :=
  if negative then -(size : Int) else size

/-- The exponent in front of a text, if there is one with a digit in it, and what follows it. -/
def splitExponent (text : List Char) : Option Int × List Char :=
  match text with
  | [] => (none, text)
  | mark :: rest =>
    if mark = 'e' || mark = 'E' then
      let (negative, unsigned) := splitSign rest
      let (digits, after) := unsigned.span Char.isDigit
      if digits.isEmpty then (none, text) else (some (signed negative (digitsValue digits)), after)
    else (none, text)

/-- The whole part of a number: a single zero, or digits that start with another one. -/
def splitWhole (text : List Char) : List Char × List Char :=
  match text with
  | '0' :: rest => (['0'], rest)
  | _ => text.span Char.isDigit

def hasDoubleUnderscore : List Char → Bool
  | '_' :: '_' :: _ => true
  | _ :: rest => hasDoubleUnderscore rest
  | [] => false

/-- A text without its underscores, unless one stands at an end or beside another one. -/
def dropUnderscores? (text : List Char) : Option (List Char) :=
  if text.head? == some '_' || text.getLast? == some '_' || hasDoubleUnderscore text then none
  else some (text.filter (· != '_'))

/-- Why a text stands for no integer. -/
inductive IntegerFault where
  | unreadable
  | oversized
  deriving DecidableEq, Repr

/-- The most characters that an integer may have; its minus counts. -/
def longestInteger : Nat := 4300

/-- The integer that a text stands for if it is written plainly: as digits without zeros in front,
behind a minus if it is negative.  Digits that are too many are told from anything else, whatever
follows them. -/
def plainInteger (text : List Char) : Except IntegerFault Int :=
  let (negative, unsigned) :=
    match text with
    | '-' :: rest => (true, rest)
    | _ => (false, text)
  let (whole, rest) := splitWhole unsigned
  if longestInteger < text.length - rest.length then .error .oversized
  else if whole.isEmpty || !rest.isEmpty then .error .unreadable
  else .ok (signed negative (digitsValue whole))

/-- A text from behind its leading zeros on, of which `last` was the latest character.  Underscores
among the zeros go with them.  The latest character stays if a point or nothing follows. -/
def afterZeros? (last : Char) : List Char → Option (List Char)
  | [] => some [last]
  | c :: rest =>
    if c = '0' || c = '_' then afterZeros? c rest
    else if c = '.' then some (last :: c :: rest)
    else if c.isDigit || c = '-' then some (c :: rest)
    else none

/-- A text without its leading zeros.  It has to start with a digit. -/
def dropZeros? : List Char → Option (List Char)
  | [] => none
  | c :: rest =>
    if c = '0' then afterZeros? c rest else if c.isDigit then some (c :: rest) else none

def isZeroFraction : List Char → Bool
  | [] => true
  | '.' :: zeros => !zeros.isEmpty && zeros.all (· == '0')
  | _ => false

/-- A text without its first point and what stands behind that, if only zeros do. -/
def dropZeroFraction (text : List Char) : List Char :=
  let (whole, fraction) := text.span (· != '.')
  if isZeroFraction fraction then whole else text

/-- The size of an integer, written plainly. -/
def tidySize? (text : List Char) : Option (List Char) :=
  (dropZeros? text).map fun digits =>
    let whole := dropZeroFraction digits
    (dropUnderscores? whole).getD whole

/-- An integer, written plainly. -/
def tidyInteger? (text : List Char) : Option (List Char) :=
  match trim isWhiteSpace text with
  | '+' :: '-' :: _ => none
  | '+' :: size => tidySize? size
  | '-' :: size => (tidySize? size).map ('-' :: ·)
  | size => tidySize? size

/-- The integer that a text stands for, as it is or tidied up. -/
def integerOfText (text : List Char) : Except IntegerFault Int :=
  match plainInteger text with
  | .error .unreadable =>
    match tidyInteger? text with
    | some tidy => plainInteger tidy
    | none => .error .unreadable
  | known => known

/-- The words for numbers that have no digits; their case does not matter. -/
def numberWords : List (List Char × Float) :=
  [("inf".toList, 1.0 / 0.0), ("infinity".toList, 1.0 / 0.0), ("nan".toList, 0.0 / 0.0)]

/-- The number that a text without blank space or underscores stands for. -/
def plainNumber? (text : List Char) : Option Float :=
  let (negative, unsigned) := splitSign text
  match numberWords.lookup (unsigned.map Char.toLower) with
  | some size => some (if negative then -size else size)
  | none =>
    let (whole, afterWhole) := unsigned.span Char.isDigit
    let (fraction, afterFraction) :=
      match afterWhole with
      | '.' :: rest => rest.span Char.isDigit
      | _ => ([], afterWhole)
    let (exponent, rest) := splitExponent afterFraction
    if (whole.isEmpty && fraction.isEmpty) || !rest.isEmpty then none
    else some (ofDecimal negative (digitsValue (whole ++ fraction))
      (exponent.getD 0 - fraction.length))

/-- The number that a text stands for.  Underscores are dropped only from a text that cannot be read
as it is, and then there may be no blank space around it. -/
def numberOfText? (text : List Char) : Option Float :=
  match plainNumber? (trim isWhiteSpace text) with
  | some number => some number
  | none => (dropUnderscores? text).bind plainNumber?

end CodeComplexity.Decimal
