import CodeComplexity.Text.Encoding

/-!
# Content digests

The SHA-256 digest of a text's UTF-8 bytes.  It names a piece of code by its exact characters:
nothing about the text is normalised first.  A text with a surrogate in it has none.
-/

namespace CodeComplexity.Text

namespace Sha256

/-- The working state: eight words. -/
structure State where
  a : UInt32
  b : UInt32
  c : UInt32
  d : UInt32
  e : UInt32
  f : UInt32
  g : UInt32
  h : UInt32
  deriving DecidableEq, Repr

/-- The state before the first block: the square roots of the first eight primes. -/
def State.initial : State :=
  ⟨0x6a09e667, 0xbb67ae85, 0x3c6ef372, 0xa54ff53a,
    0x510e527f, 0x9b05688c, 0x1f83d9ab, 0x5be0cd19⟩

/-- One word for each round: the cube roots of the first sixty-four primes. -/
def roundWords : List UInt32 :=
  [0x428a2f98, 0x71374491, 0xb5c0fbcf, 0xe9b5dba5, 0x3956c25b, 0x59f111f1,
   0x923f82a4, 0xab1c5ed5, 0xd807aa98, 0x12835b01, 0x243185be, 0x550c7dc3,
   0x72be5d74, 0x80deb1fe, 0x9bdc06a7, 0xc19bf174, 0xe49b69c1, 0xefbe4786,
   0x0fc19dc6, 0x240ca1cc, 0x2de92c6f, 0x4a7484aa, 0x5cb0a9dc, 0x76f988da,
   0x983e5152, 0xa831c66d, 0xb00327c8, 0xbf597fc7, 0xc6e00bf3, 0xd5a79147,
   0x06ca6351, 0x14292967, 0x27b70a85, 0x2e1b2138, 0x4d2c6dfc, 0x53380d13,
   0x650a7354, 0x766a0abb, 0x81c2c92e, 0x92722c85, 0xa2bfe8a1, 0xa81a664b,
   0xc24b8b70, 0xc76c51a3, 0xd192e819, 0xd6990624, 0xf40e3585, 0x106aa070,
   0x19a4c116, 0x1e376c08, 0x2748774c, 0x34b0bcb5, 0x391c0cb3, 0x4ed8aa4a,
   0x5b9cca4f, 0x682e6ff3, 0x748f82ee, 0x78a5636f, 0x84c87814, 0x8cc70208,
   0x90befffa, 0xa4506ceb, 0xbef9a3f7, 0xc67178f2]

/-- The bits of a word moved to the right, with those that fall off put back on the left. -/
def rotateRight (word : UInt32) (count : UInt32) : UInt32 :=
  (word >>> count) ||| (word <<< (32 - count))

/-- One round: mix a word of the message into the state. -/
def State.round (state : State) (message constant : UInt32) : State :=
  let choice := (state.e &&& state.f) ^^^ (~~~ state.e &&& state.g)
  let majority := (state.a &&& state.b) ^^^ (state.a &&& state.c) ^^^ (state.b &&& state.c)
  let upper := rotateRight state.e 6 ^^^ rotateRight state.e 11 ^^^ rotateRight state.e 25
  let lower := rotateRight state.a 2 ^^^ rotateRight state.a 13 ^^^ rotateRight state.a 22
  let mixed := state.h + upper + choice + constant + message
  ⟨mixed + lower + majority, state.a, state.b, state.c, state.d + mixed, state.e, state.f, state.g⟩

/-- The sum of two states, word by word. -/
def State.add (left right : State) : State :=
  ⟨left.a + right.a, left.b + right.b, left.c + right.c, left.d + right.d,
    left.e + right.e, left.f + right.f, left.g + right.g, left.h + right.h⟩

/-- The message schedule, latest word first: each further word is made of four earlier ones. -/
def extend : Nat → List UInt32 → List UInt32
  | 0, words => words
  | count + 1, words =>
    let word (back : Nat) : UInt32 := (words[back - 1]?).getD 0
    let near := word 2
    let far := word 15
    let mixedNear := rotateRight near 17 ^^^ rotateRight near 19 ^^^ (near >>> 10)
    let mixedFar := rotateRight far 7 ^^^ rotateRight far 18 ^^^ (far >>> 3)
    extend count ((mixedNear + word 7 + mixedFar + word 16) :: words)

/-- Take one block of sixteen words into the state. -/
def State.absorb (state : State) (block : List UInt32) : State :=
  let schedule := (extend 48 block.reverse).reverse
  state.add ((schedule.zip roundWords).foldl
    (fun mixed (message, constant) => mixed.round message constant) state)

def lengthBytes (bits : Nat) : List UInt8 :=
  (List.range 8).map fun place => UInt8.ofNat (Nat.shiftRight bits (8 * (7 - place)))

/-- The bytes of a message brought to a whole number of blocks: a set bit, zeros, and the length in
bits. -/
def pad (bytes : List UInt8) : List UInt8 :=
  let zeros := (119 - bytes.length % 64) % 64
  bytes ++ 0x80 :: List.replicate zeros 0 ++ lengthBytes (8 * bytes.length)

def toWords : List UInt8 → List UInt32
  | first :: second :: third :: fourth :: rest =>
    UInt32.ofNat (((first.toNat * 256 + second.toNat) * 256 + third.toNat) * 256 + fourth.toNat)
      :: toWords rest
  | _ => []

/-- Take a number of blocks into the state, one after the other. -/
def absorbBlocks : Nat → State → List UInt32 → State
  | 0, state, _ => state
  | blocks + 1, state, words => absorbBlocks blocks (state.absorb (words.take 16)) (words.drop 16)

end Sha256

/-- The digest of a text: 256 bits. -/
structure Digest where
  state : Sha256.State
  deriving DecidableEq, Repr

/-- The SHA-256 digest of a text's UTF-8 bytes. -/
def contentDigest (text : String) : Digest :=
  let words := Sha256.toWords (Sha256.pad (text.toList.flatMap String.utf8EncodeChar))
  ⟨Sha256.absorbBlocks (words.length / 16) .initial words⟩

/-- The digest of a text, if it can be written. -/
def LooseText.digest (text : LooseText) : Except EncodeError Digest :=
  text.encoded.map contentDigest

def hexWord (word : UInt32) : List Char :=
  let digits := Nat.toDigits 16 word.toNat
  List.replicate (8 - digits.length) '0' ++ digits

/-- The digest in lower-case hexadecimal digits. -/
def Digest.hex (digest : Digest) : String :=
  let state := digest.state
  String.ofList ([state.a, state.b, state.c, state.d, state.e, state.f, state.g, state.h].flatMap
    hexWord)

end CodeComplexity.Text
