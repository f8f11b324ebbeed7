/-!
# Base64

Bytes written with letters, digits and two signs, six bits to a character.  What is missing in the
last group of three bytes is filled up with equals signs.
-/

namespace CodeComplexity.Text

def base64Char (bits : Nat) : Char :=
  if bits < 26 then Char.ofNat ('A'.toNat + bits)
  else if bits < 52 then Char.ofNat ('a'.toNat + (bits - 26))
  else if bits < 62 then Char.ofNat ('0'.toNat + (bits - 52))
  else if bits = 62 then '+'
  else '/'

/-- The characters for up to three bytes. -/
def base64Group (first : UInt8) (second third : Option UInt8) : List Char :=
  let high := first.toNat
  let middle := (second.map UInt8.toNat).getD 0
  let low := (third.map UInt8.toNat).getD 0
  [base64Char (high / 4), base64Char (high % 4 * 16 + middle / 16),
    if second.isSome then base64Char (middle % 16 * 4 + low / 64) else '=',
    if third.isSome then base64Char (low % 64) else '=']

def base64 : List UInt8 → List Char
  | [] => []
  | [first] => base64Group first none none
  | [first, second] => base64Group first (some second) none
  | first :: second :: third :: rest => base64Group first (some second) (some third) ++ base64 rest

end CodeComplexity.Text
