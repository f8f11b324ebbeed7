import CodeComplexity.Check.Checked
import CodeComplexity.Decimal.Numeral

/-!
# Checks of simple values

Texts have to be texts; numbers and truth values are accepted in every form that leaves no doubt.
An integer may be written as a double without a fraction, as a truth value or as text, a number as a
truth value or as text, and a truth value as zero or one or as one of a few words.
-/

namespace CodeComplexity.Check

open Checked Text

/-- A text, which may hold surrogates on their own. -/
def text (value : Json) : Checked LooseText :=
  match value.looseText? with
  | some text => .valid text
  | none => .refuse .notText

/-- The integer for a truth value. -/
def truthInt (value : Bool) : Int :=
  if value then 1 else 0

/-- The integer that a double stands for, if it lies strictly between the bounds of a word: as a
double the least word cannot be told from its neighbours. -/
def integerOfFloat (number : Float) : Checked Int :=
  match Decimal.toInt? number with
  | some value =>
    if Decimal.strictlyFitsWord value then .valid value else .refuse .oversizedInteger
  | none => if number.isFinite then .refuse .fractional else .refuse .notFinite

def integerOfText (text : List Char) : Checked Int :=
  match Decimal.integerOfText text with
  | .ok value => .valid value
  | .error .unreadable => .refuse .unreadableInteger
  | .error .oversized => .refuse .oversizedInteger

/-- An integer. -/
def integer : Json → Checked Int
  | .int value => .valid value
  | .float number => integerOfFloat number
  | .bool value => .valid (truthInt value)
  | .str text => integerOfText text.toList
  | .loose _ => .refuse .unpairedSurrogate
  | .null | .arr _ | .obj _ => .refuse .notInteger

/-- An integer that is not below a bound. -/
def integerFrom (bound : Int) (value : Json) : Checked { number : Int // bound ≤ number } :=
  (integer value).andThen fun number =>
    if enough : bound ≤ number then .valid ⟨number, enough⟩ else .refuse (.below bound)

def natural (value : Json) : Checked Nat :=
  (fun number => number.val.toNat) <$> integerFrom 0 value

def positive (value : Json) : Checked { number : Nat // 0 < number } :=
  (fun number => ⟨number.val.toNat, by have := number.property; omega⟩) <$> integerFrom 1 value

/-- A number.  An integer that is too large for a double is none. -/
def number : Json → Checked Float
  | .float value => .valid value
  | .int value =>
    let nearest := Decimal.ofInt value
    if nearest.isFinite then .valid nearest else .refuse .notNumber
  | .bool value => .valid (if value then 1 else 0)
  | .str text =>
    match Decimal.numberOfText? text.toList with
    | some value => .valid value
    | none => .refuse .unreadableNumber
  | .loose _ => .refuse .unpairedSurrogate
  | .null | .arr _ | .obj _ => .refuse .notNumber

/-- The words for truth values; their case does not matter. -/
def truthWords : List (String × Bool) :=
  [("1", true), ("true", true), ("t", true), ("yes", true), ("y", true), ("on", true),
    ("0", false), ("false", false), ("f", false), ("no", false), ("n", false), ("off", false)]

def truthOfWord (value : Int) : Checked Bool :=
  if value = 0 then .valid false else if value = 1 then .valid true else .refuse .unreadableTruth

/-- A truth value. -/
def truth : Json → Checked Bool
  | .bool value => .valid value
  | .int value => if Decimal.fitsWord value then truthOfWord value else .refuse .notTruth
  | .float number =>
    match Decimal.toInt? number with
    | some value =>
      if Decimal.strictlyFitsWord value then truthOfWord value else .refuse .notTruth
    | none => .refuse .notTruth
  | .str text =>
    match truthWords.lookup (text.map Char.toLower) with
    | some value => .valid value
    | none => .refuse .unreadableTruth
  | .loose _ => .refuse .unpairedSurrogate
  | .null | .arr _ | .obj _ => .refuse .notTruth

/-- One of a few texts, each of which stands for a value. -/
def oneOf {α : Type} (cause : Cause) (meanings : List (String × α)) : Json → Checked α
  | .str text =>
    match meanings.lookup text with
    | some meaning => .valid meaning
    | none => .refuse cause
  | .loose _ => .refuse .unpairedSurrogate
  | .null | .bool _ | .int _ | .float _ | .arr _ | .obj _ => .refuse cause

/-- The members of an object whose values are texts, in order. -/
def textMembers : Json.Members → Checked (Keyed LooseText LooseText)
  | [] => .valid []
  | (key, value) :: rest =>
    (fun text more => (key, text) :: more) <$> (Check.text value).under key.replaced
      <*> textMembers rest

/-- An object whose values are texts. -/
def textMapping : Json → Checked (Keyed LooseText LooseText)
  | .obj members => textMembers members
  | _ => .refuse .notMapping

end CodeComplexity.Check
