import CodeComplexity.Text.Encoding

/-!
# Escapes in addresses

A character that may not stand in some part of an address is written by the bytes of its UTF-8 form,
each as a percent sign and two hexadecimal digits.  What is escaped already stays as it is, because
the percent sign may stand everywhere.
-/

namespace CodeComplexity.Address

open Text

def hexChar (digit : Nat) : Char :=
  if digit < 10 then Char.ofNat ('0'.toNat + digit) else Char.ofNat ('A'.toNat + (digit - 10))

/-- A byte as an escape. -/
def escapeByte (byte : UInt8) : List Char :=
  ['%', hexChar (byte.toNat / 16), hexChar (byte.toNat % 16)]

/-- A character that may stand where it stands, or its escapes. -/
def escapeChar (isSafe : Char → Bool) (c : Char) : List Char :=
  if isSafe c then [c] else (String.utf8EncodeChar c).flatMap escapeByte

/-- A text with escapes for what may not stand in it. -/
def escape (isSafe : Char → Bool) (text : List Char) : List Char :=
  text.flatMap (escapeChar isSafe)

def hexValue? (c : Char) : Option Nat :=
  let small := c.toLower
  if c.isDigit then some (c.toNat - '0'.toNat)
  else if 'a' ≤ small && small ≤ 'f' then some (small.toNat - 'a'.toNat + 10)
  else none

/-- The bytes that a text with escapes stands for.  A percent sign without two digits behind it
stands for itself. -/
def unescapeBytes : List Char → List UInt8
  | [] => []
  | '%' :: high :: low :: rest =>
    match hexValue? high, hexValue? low with
    | some first, some second => UInt8.ofNat (first * 16 + second) :: unescapeBytes rest
    | _, _ => String.utf8EncodeChar '%' ++ unescapeBytes (high :: low :: rest)
  | c :: rest => String.utf8EncodeChar c ++ unescapeBytes rest

/-- The text that a text with escapes stands for.  Bytes that stand for no text are replaced. -/
def unescape (text : List Char) : List Char :=
  decodeReplacing (unescapeBytes text)

end CodeComplexity.Address
