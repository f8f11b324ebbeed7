import CodeComplexity.Decimal.Shortest
import CodeComplexity.Json.Basic
import CodeComplexity.Text.Printable

/-!
# Values in messages

How a value is shown in a message.  A text is shown as it is; every other value is shown in a form
that tells texts from the rest, in which the texts inside are quoted.
-/

namespace CodeComplexity.Json

open Text

def hexDigits (width number : Nat) : List Char :=
  let digits := Nat.toDigits 16 number
  List.replicate (width - digits.length) '0' ++ digits

/-- A code point of a quoted text: quotes of the kind in use and backslashes are escaped, and so is
what cannot be printed, by two, four or eight digits. -/
def displayPoint (mark : Char) (point : CodePoint) : List Char :=
  let code := point.toNat
  let escaped :=
    if code < 0x100 then '\\' :: 'x' :: hexDigits 2 code
    else if code < 0x10000 then '\\' :: 'u' :: hexDigits 4 code
    else '\\' :: 'U' :: hexDigits 8 code
  match point with
  | .char c =>
    if c = mark || c = '\\' then ['\\', c]
    else if c = '\n' then ['\\', 'n']
    else if c = '\r' then ['\\', 'r']
    else if c = '\t' then ['\\', 't']
    else if isPrintable c then [c]
    else escaped
  | .surrogate _ => escaped

/-- A quoted text: in single quotes, or in double ones if it holds a single but no double quote. -/
def displayText (text : LooseText) : String :=
  let single := text.points.contains (.char '\'')
  let mark := if single && !text.points.contains (.char '"') then '"' else '\''
  String.ofList (mark :: text.points.flatMap (displayPoint mark) ++ [mark])

mutual

def displayQuoted : Json → String
  | .null => "None"
  | .bool value => if value then "True" else "False"
  | .int value => toString value
  | .float value => Decimal.floatText "nan" "inf" value
  | .str value => displayText value
  | .loose value => displayText value
  | .arr items => "[" ++ displayItems items ++ "]"
  | .obj members => "\x7b" ++ displayMembers members ++ "\x7d"

def displayItems : List Json → String
  | [] => ""
  | [item] => displayQuoted item
  | item :: next :: rest => displayQuoted item ++ ", " ++ displayItems (next :: rest)

def displayMembers : List (LooseText × Json) → String
  | [] => ""
  | [(key, value)] => displayText key ++ ": " ++ displayQuoted value
  | (key, value) :: next :: rest =>
    displayText key ++ ": " ++ displayQuoted value ++ ", " ++ displayMembers (next :: rest)

end

/-- A value as a message shows it. -/
def display : Json → LooseText
  | .str value => value
  | .loose value => value
  | other => displayQuoted other

end CodeComplexity.Json
