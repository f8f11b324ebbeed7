import CodeComplexity.Decimal.Shortest
import CodeComplexity.Json.Basic

/-!
# Writing JSON

JSON text in ASCII: other characters are written as escapes of their UTF-16 units, and so are
surrogates on their own; floating-point numbers are written by their shortest decimals.
-/

namespace CodeComplexity.Json

/-- A sixteen-bit unit as an escape of four digits. -/
def escapeUnit (unit : Nat) : List Char :=
  let digits := Nat.toDigits 16 unit
  '\\' :: 'u' :: List.replicate (4 - digits.length) '0' ++ digits

def escapeChar (c : Char) : List Char :=
  let code := c.toNat
  if c = '"' then ['\\', '"']
  else if c = '\\' then ['\\', '\\']
  else if c = '\n' then ['\\', 'n']
  else if c = '\r' then ['\\', 'r']
  else if c = '\t' then ['\\', 't']
  else if 0x20 ≤ code && code < 0x7F then [c]
  else if code < 0x10000 then escapeUnit code
  else
    let offset := code - 0x10000
    escapeUnit (0xD800 + offset / 0x400) ++ escapeUnit (0xDC00 + offset % 0x400)

def escapePoint : Text.CodePoint → List Char
  | .char c => escapeChar c
  | .surrogate code => escapeUnit code

def quote (text : String) : String :=
  String.ofList ('"' :: text.toList.flatMap escapeChar ++ ['"'])

def quoteLoose (text : Text.LooseText) : String :=
  String.ofList ('"' :: text.points.flatMap escapePoint ++ ['"'])

mutual

def render : Json → String
  | .null => "null"
  | .bool value => if value then "true" else "false"
  | .int value => toString value
  | .float value => Decimal.floatText "NaN" "Infinity" value
  | .str value => quote value
  | .loose value => quoteLoose value
  | .arr items => "[" ++ renderItems items ++ "]"
  | .obj members => "\x7b" ++ renderMembers members ++ "\x7d"

/-- The items of an array, with commas between them. -/
def renderItems : List Json → String
  | [] => ""
  | [item] => render item
  | item :: next :: rest => render item ++ ", " ++ renderItems (next :: rest)

/-- The members of an object, with commas between them. -/
def renderMembers : List (Text.LooseText × Json) → String
  | [] => ""
  | [(key, value)] => quoteLoose key ++ ": " ++ render value
  | (key, value) :: next :: rest =>
    quoteLoose key ++ ": " ++ render value ++ ", " ++ renderMembers (next :: rest)

end

end CodeComplexity.Json
