import CodeComplexity.Decimal.Numeral
import CodeComplexity.Json.Basic

/-!
# Reading JSON

A reader that tells where a text stops being JSON.  It works on what is left of the text; a fault
remembers how much was left where it arose, and `SyntaxError.message` turns that into a line, a
column and a character.  Beside the standard's values it knows `NaN`, `Infinity` and `-Infinity`.
Integers with too many digits are refused, and so are values that are nested too deeply.  How deep
that is differs from call to call: it is the room that the stack has left where a text is read.
-/

namespace CodeComplexity.Json

open Decimal Text

/-- Why a text is no JSON. -/
inductive SyntaxFault where
  | value
  | propertyName
  | colon
  | comma
  | extraData
  | unterminatedString
  | controlCharacter
  | escape
  | unicodeEscape
  deriving DecidableEq, Repr

def SyntaxFault.text : SyntaxFault → String
  | .value => "Expecting value"
  | .propertyName => "Expecting property name enclosed in double quotes"
  | .colon => "Expecting ':' delimiter"
  | .comma => "Expecting ',' delimiter"
  | .extraData => "Extra data"
  | .unterminatedString => "Unterminated string starting at"
  | .controlCharacter => "Invalid control character at"
  | .escape => "Invalid \\escape"
  | .unicodeEscape => "Invalid \\uXXXX escape"

/-- The values that have parts. -/
inductive Container where
  | array
  | object
  deriving DecidableEq, Repr

def Container.name : Container → String
  | .array => "array"
  | .object => "object"

/-- What is wrong where a value with parts is nested too deeply. -/
def Container.tooDeepMessage (container : Container) : String :=
  "maximum recursion depth exceeded while decoding a JSON " ++ container.name
    ++ " from a unicode string"

/-- What stops the reader. -/
inductive Stuck where
  /-- A fault, and how many code points of the text were left where it arose. -/
  | malformed (fault : SyntaxFault) (left : Nat)
  | oversizedInteger (digits : Nat)
  /-- There is no room for such a value. -/
  | tooDeep (container : Container)
  deriving DecidableEq, Repr

/-- A fault at a place of a text. -/
structure SyntaxError where
  fault : SyntaxFault
  text : List CodePoint
  position : Nat
  deriving DecidableEq, Repr

/-- A fault with its place: lines and columns count from one, code points from zero. -/
def SyntaxError.message (error : SyntaxError) : String :=
  let before := error.text.take error.position
  let line := before.count (.char '\n') + 1
  let column := (before.reverse.takeWhile (· != .char '\n')).length + 1
  s!"{error.fault.text}: line {line} column {column} (char {error.position})"

/-- Why a text cannot be read. -/
inductive ReadError where
  | malformed (error : SyntaxError)
  /-- An integer has more digits than are read. -/
  | oversizedInteger (digits : Nat)
  /-- Values are nested more deeply than there is room for. -/
  | tooDeep (container : Container)
  deriving DecidableEq, Repr

/-- What a reader makes of a text: a result with what is left, or what stops it. -/
abbrev Reading (α : Type) := Except Stuck (α × List CodePoint)

def isSpace (point : CodePoint) : Bool :=
  point = .char ' ' || point = .char '\t' || point = .char '\n' || point = .char '\r'

/-- A text from its first code point on that is no white space. -/
def skipSpace (text : List CodePoint) : List CodePoint :=
  text.dropWhile isSpace

def hexDigit? (c : Char) : Option Nat :=
  if c.isDigit then some (c.toNat - '0'.toNat)
  else if 'a' ≤ c && c ≤ 'f' then some (c.toNat - 'a'.toNat + 10)
  else if 'A' ≤ c && c ≤ 'F' then some (c.toNat - 'A'.toNat + 10)
  else none

def hexNumber? (digits : List CodePoint) : Option Nat :=
  digits.foldlM (fun number point =>
    (point.char?.bind hexDigit?).map (number * 16 + ·)) 0

/-- Read what follows `\u`: four digits, or twice four for a pair of surrogates.  The digits may not
be the last of the text. -/
def readUnicodeEscape (text : List CodePoint) : Reading CodePoint :=
  let stuck : Stuck := .malformed .unicodeEscape (text.length + 1)
  if text.length ≤ 4 then .error stuck
  else match hexNumber? (text.take 4) with
    | none => .error stuck
    | some unit =>
      let rest := text.drop 4
      match rest with
      | .char '\\' :: .char 'u' :: digits =>
        if isHighSurrogate unit && 4 < digits.length then
          match hexNumber? (digits.take 4) with
          | none => .error (.malformed .unicodeEscape (digits.length + 1))
          | some low =>
            if isLowSurrogate low then .ok (.ofNat (joinSurrogates unit low), digits.drop 4)
            else .ok (.ofNat unit, rest)
        else .ok (.ofNat unit, rest)
      | _ => .ok (.ofNat unit, rest)

/-- The character that stands for a letter after a backslash. -/
def shortEscape? : Char → Option Char
  | '"' => some '"'
  | '\\' => some '\\'
  | '/' => some '/'
  | 'b' => some '\x08'
  | 'f' => some '\x0c'
  | 'n' => some '\n'
  | 'r' => some '\r'
  | 't' => some '\t'
  | _ => none

/-- Read a string from behind its opening quote, which has `opened` code points from itself on.  The
code points read so far are `done`, the latest first. -/
def readString (opened : Nat) : Nat → List CodePoint → List CodePoint → Reading LooseText
  | 0, _, _ => .error (.malformed .unterminatedString opened)
  | _ + 1, _, [] => .error (.malformed .unterminatedString opened)
  | fuel + 1, done, point :: rest =>
    if point = .char '"' then .ok (⟨done.reverse⟩, rest)
    else if point = .char '\\' then
      match rest with
      | [] => .error (.malformed .unterminatedString opened)
      | .char 'u' :: digits =>
        match readUnicodeEscape digits with
        | .error stuck => .error stuck
        | .ok (decoded, rest) => readString opened fuel (decoded :: done) rest
      | letter :: rest =>
        match letter.char?.bind shortEscape? with
        | none => .error (.malformed .escape (rest.length + 2))
        | some decoded => readString opened fuel (.char decoded :: done) rest
    else if point.toNat ≤ 0x1F then .error (.malformed .controlCharacter (rest.length + 1))
    else readString opened fuel (point :: done) rest

/-- The digits behind a point, if there is a point with a digit behind it. -/
def splitFraction (text : List Char) : Option (List Char) × List Char :=
  match text with
  | '.' :: rest =>
    let (digits, after) := rest.span Char.isDigit
    if digits.isEmpty then (none, text) else (some digits, after)
  | _ => (none, text)

/-- The most digits of an integer that is read. -/
def mostDigits : Nat := 4300

def integerOfDigits (negative : Bool) (digits : List Char) : Except Stuck Json :=
  if mostDigits < digits.length then .error (.oversizedInteger digits.length)
  else .ok (.int (signed negative (digitsValue digits)))

def isNumeral (c : Char) : Bool :=
  c.isDigit || c = '-' || c = '+' || c = '.' || c = 'e' || c = 'E'

/-- The characters at the front of a text that may belong to a number. -/
def numeralFront : List CodePoint → List Char
  | .char c :: rest => if isNumeral c then c :: numeralFront rest else []
  | _ => []

/-- Read a number.  It is an integer exactly if it has neither a fraction nor an exponent. -/
def readNumber (text : List CodePoint) : Reading Json :=
  let front := numeralFront text
  let (negative, unsigned) :=
    match front with
    | '-' :: rest => (true, rest)
    | _ => (false, front)
  let (whole, afterWhole) := splitWhole unsigned
  if whole.isEmpty then .error (.malformed .value text.length)
  else
    let (fraction, afterFraction) := splitFraction afterWhole
    let (exponent, rest) := splitExponent afterFraction
    let left := text.drop (front.length - rest.length)
    match fraction, exponent with
    | none, none => (integerOfDigits negative whole).map fun number => (number, left)
    | _, _ =>
      let places := fraction.getD []
      let number := ofDecimal negative (digitsValue (whole ++ places))
        (exponent.getD 0 - places.length)
      .ok (.float number, left)

/-- The values that are written as a word. -/
def wordValues : List (String × Json) :=
  [("null", .null), ("true", .bool true), ("false", .bool false), ("NaN", .float (0.0 / 0.0)),
    ("Infinity", .float (1.0 / 0.0)), ("-Infinity", .float (-1.0 / 0.0))]

/-- Read a value that is neither a string nor has parts. -/
def readSimple (text : List CodePoint) : Reading Json :=
  match wordValues.find? fun (word, _) => (LooseText.ofString word).points.isPrefixOf text with
  | some (word, value) => .ok (value, text.drop word.length)
  | none => readNumber text

mutual

/-- Read a value that starts with the first code point, within so many more levels. -/
def readValue (room : Nat) : Nat → List CodePoint → Reading Json
  | 0, text => .error (.malformed .value text.length)
  | _ + 1, [] => .error (.malformed .value 0)
  | fuel + 1, point :: rest =>
    if point = .char '"' then
      match readString (rest.length + 1) (rest.length + 1) [] rest with
      | .error stuck => .error stuck
      | .ok (text, after) => .ok (.ofLooseText text, after)
    else if point = .char '{' then
      if room = 0 then .error (.tooDeep .object)
      else match skipSpace rest with
        | .char '}' :: after => .ok (.obj [], after)
        | inside => readMembers (room - 1) fuel [] inside
    else if point = .char '[' then
      if room = 0 then .error (.tooDeep .array)
      else match skipSpace rest with
        | .char ']' :: after => .ok (.arr [], after)
        | inside => readItems (room - 1) fuel [] inside
    else readSimple (point :: rest)

/-- Read the items of an array up to its end; the items read so far are `done`, the latest first. -/
def readItems (room : Nat) : Nat → List Json → List CodePoint → Reading Json
  | 0, _, text => .error (.malformed .value text.length)
  | fuel + 1, done, text =>
    match readValue room fuel text with
    | .error stuck => .error stuck
    | .ok (item, after) =>
      match skipSpace after with
      | .char ']' :: rest => .ok (.arr (item :: done).reverse, rest)
      | .char ',' :: rest => readItems room fuel (item :: done) (skipSpace rest)
      | rest => .error (.malformed .comma rest.length)

/-- Read the members of an object up to its end; the members read so far are `done`, the latest
first. -/
def readMembers (room : Nat) : Nat → Members → List CodePoint → Reading Json
  | 0, _, text => .error (.malformed .propertyName text.length)
  | fuel + 1, done, text =>
    match text with
    | .char '"' :: rest =>
      match readString text.length text.length [] rest with
      | .error stuck => .error stuck
      | .ok (key, afterKey) =>
        match skipSpace afterKey with
        | .char ':' :: afterColon =>
          match readValue room fuel (skipSpace afterColon) with
          | .error stuck => .error stuck
          | .ok (value, after) =>
            let known := (key, value) :: done
            match skipSpace after with
            | .char '}' :: rest => .ok (.ofMembers known.reverse, rest)
            | .char ',' :: rest => readMembers room fuel known (skipSpace rest)
            | rest => .error (.malformed .comma rest.length)
        | rest => .error (.malformed .colon rest.length)
    | _ => .error (.malformed .propertyName text.length)

end

/-- Read a text that holds one value, within so many levels.  Each step but the first takes a code
point, and at most two steps are taken for one, so the steps that are allowed suffice. -/
def readText (room : Nat) (text : List CodePoint) : Reading Json :=
  match readValue room (2 * text.length + 2) (skipSpace text) with
  | .error stuck => .error stuck
  | .ok (value, rest) =>
    let left := skipSpace rest
    if left.isEmpty then .ok (value, left) else .error (.malformed .extraData left.length)

/-- The value that a text holds, or why it cannot be read. -/
def read (room : Nat) (text : List CodePoint) : Except ReadError Json :=
  match readText room text with
  | .ok (value, _) => .ok value
  | .error (.malformed fault left) => .error (.malformed ⟨fault, text, text.length - left⟩)
  | .error (.oversizedInteger digits) => .error (.oversizedInteger digits)
  | .error (.tooDeep container) => .error (.tooDeep container)

/-- The value that a text without surrogates holds, or why it cannot be read. -/
def ofText (room : Nat) (text : String) : Except ReadError Json :=
  read room (LooseText.ofString text).points

end CodeComplexity.Json
