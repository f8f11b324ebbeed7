/-!
# Punycode

Text written with letters, digits and hyphens only.  The characters of ASCII come first, behind the
last hyphen follows how the others are put in between: one number for each, in the order of their
codes, that counts the places passed over since the one before.  The numbers are written with the
least digit first, in base thirty-six with thresholds that follow the numbers' size.
-/

namespace CodeComplexity.DomainName.Punycode

def isAscii (c : Char) : Bool :=
  c.toNat < 0x80

/-- The least digit that does not end a number, at a place counted from zero. -/
def threshold (bias place : Nat) : Nat :=
  max 1 (min 26 (36 * (place + 1) - bias))

theorem one_le_threshold (bias place : Nat) : 1 ≤ threshold bias place := by
  rw [threshold]
  omega

/-- The character of a digit: letters, then decimal digits. -/
def digitChar (digit : Nat) : Char :=
  if digit < 26 then Char.ofNat ('a'.toNat + digit) else Char.ofNat ('0'.toNat + (digit - 26))

def digit? (c : Char) : Option Nat :=
  if 'a' ≤ c && c ≤ 'z' then some (c.toNat - 'a'.toNat)
  else if c.isDigit then some (c.toNat - '0'.toNat + 26)
  else none

/-- A number in digits, from a place on. -/
def digitsFrom (bias place number : Nat) : List Char :=
  let least := threshold bias place
  if number < least then [digitChar number]
  else
    digitChar (least + (number - least) % (36 - least))
      :: digitsFrom bias (place + 1) ((number - least) / (36 - least))
termination_by number
decreasing_by
  have positive := one_le_threshold bias place
  have shrinks := Nat.div_le_self (number - threshold bias place) (36 - threshold bias place)
  omega

/-- A number of moderate size, and the bias for the steps that it took to get there. -/
def moderate (number bias : Nat) : Nat × Nat :=
  if number ≤ 455 then (number, bias) else moderate (number / 35) (bias + 36)
termination_by number

/-- The bias for the next number: from the last one, of how many characters there are then, and
whether it was the first number. -/
def nextBias (number count : Nat) (first : Bool) : Nat :=
  let scaled := if first then number / 700 else number / 2
  let (small, bias) := moderate (scaled + scaled / count) 0
  bias + 36 * small / (small + 38)

/-- Where writing or reading has got to: the code that is put in next, the place that is looked at
next, and how many numbers have been written or read. -/
structure Progress where
  code : Nat
  place : Nat
  bias : Nat
  numbers : Nat
  deriving DecidableEq, Repr

def Progress.start : Progress :=
  ⟨0x80, 0, 72, 0⟩

/-- The characters outside ASCII with their places, in the order in which they are put in. -/
def insertions (text : List Char) : List (Char × Nat) :=
  (text.zipIdx.filter fun (c, _) => !isAscii c).mergeSort fun first second =>
    first.1.toNat < second.1.toNat || (first.1 = second.1 && first.2 ≤ second.2)

/-- The numbers for some insertions into a text. -/
def numbersFrom (text : List Char) (progress : Progress) : List (Char × Nat) → List Char
  | [] => []
  | (c, index) :: rest =>
    let before := text.take index
    let place := before.countP fun other => other.toNat ≤ c.toNat
    let present := (text.countP fun other => other.toNat < c.toNat) + before.count c
    let number := (c.toNat - progress.code) * (present + 1) + place - progress.place
    let bias := nextBias number (present + 1) (progress.numbers == 0)
    digitsFrom progress.bias 0 number
      ++ numbersFrom text ⟨c.toNat, place + 1, bias, progress.numbers + 1⟩ rest

def encode (text : List Char) : List Char :=
  let basic := text.filter isAscii
  let separator := if basic.isEmpty then [] else ['-']
  basic ++ separator ++ numbersFrom text .start (insertions text)

/-- Read a number from a place on, and give what is left.  Its digits so far make up `sum`, and a
digit at the place counts `weight` times. -/
def number? (bias : Nat) (place weight sum : Nat) : List Char → Option (Nat × List Char)
  | [] => none
  | c :: rest =>
    match digit? c with
    | none => none
    | some digit =>
      let least := threshold bias place
      if digit < least then some (sum + digit * weight, rest)
      else number? bias (place + 1) (weight * (36 - least)) (sum + digit * weight) rest

/-- Put the characters that numbers stand for into a text.  A number takes at least one digit, so as
many steps as there are digits suffice. -/
def insertFrom (progress : Progress) (text : List Char) : Nat → List Char → Option (List Char)
  | _, [] => some text
  | 0, _ => none
  | steps + 1, digits =>
    match number? progress.bias 0 1 0 digits with
    | none => none
    | some (number, rest) =>
      let passed := progress.place + number
      let count := text.length + 1
      let code := progress.code + passed / count
      let place := passed % count
      if code.isValidChar then
        insertFrom ⟨code, place + 1, nextBias number count (progress.numbers == 0),
          progress.numbers + 1⟩ (text.insertIdx place (Char.ofNat code)) steps rest
      else none

def decode? (text : List Char) : Option (List Char) :=
  let (tail, front) := text.reverse.span (· ≠ '-')
  insertFrom .start (front.drop 1).reverse tail.length tail.reverse

end CodeComplexity.DomainName.Punycode
