import CodeComplexity.Text.CodePoint

/-!
# Encoded text

Bytes read as text.  `Encoding.detect` recognises UTF-8, UTF-16 and UTF-32 by a byte order mark or,
since the first two characters of JSON text are ASCII, by where the zero bytes stand.  A byte
sequence that stands for no text is an error that names the bytes and their place.  Surrogates on
their own are no error, though they stand for no character.

The other way round, a text can be written as bytes unless there is a surrogate in it.
`LooseText.encoded` finds the text that can be written.
-/

namespace CodeComplexity.Text

/-- How text is encoded. -/
inductive Encoding where
  | utf8
  | utf16 (bigEndian : Bool)
  | utf32 (bigEndian : Bool)
  deriving DecidableEq, Repr

def Encoding.name : Encoding → String
  | .utf8 => "utf-8"
  | .utf16 false => "utf-16-le"
  | .utf16 true => "utf-16-be"
  | .utf32 false => "utf-32-le"
  | .utf32 true => "utf-32-be"

inductive ByteFault where
  | invalidStart
  | invalidContinuation
  | unexpectedEnd
  | truncated
  | outOfRange
  deriving DecidableEq, Repr

def ByteFault.text : ByteFault → String
  | .invalidStart => "invalid start byte"
  | .invalidContinuation => "invalid continuation byte"
  | .unexpectedEnd => "unexpected end of data"
  | .truncated => "truncated data"
  | .outOfRange => "code point not in range(0x110000)"

/-- Bytes that stand for no text, with the place of the first of them. -/
structure DecodeError where
  encoding : Encoding
  fault : ByteFault
  position : Nat
  first : UInt8
  count : Nat
  deriving DecidableEq, Repr

def hexByte (byte : UInt8) : String :=
  let digits := Nat.toDigits 16 byte.toNat
  String.ofList (List.replicate (2 - digits.length) '0' ++ digits)

/-- What is wrong with the bytes, and where they stand. -/
def DecodeError.message (error : DecodeError) : String :=
  let name := error.encoding.name
  let reason := error.fault.text
  if error.count = 1 then
    let byte := hexByte error.first
    s!"'{name}' codec can't decode byte 0x{byte} in position {error.position}: {reason}"
  else
    let last := error.position + error.count - 1
    s!"'{name}' codec can't decode bytes in position {error.position}-{last}: {reason}"

def isContinuation (byte : UInt8) : Bool :=
  0x80 ≤ byte && byte < 0xC0

/-- The six bits of a continuation byte. -/
def continuationBits (byte : UInt8) : Nat :=
  byte.toNat - 0x80

/-- A fault of the front of some bytes, and how many of them it takes in. -/
abbrev FrontFault := ByteFault × Nat

/-- The first code point of UTF-8 bytes and the bytes behind it. -/
def utf8Front (lead : UInt8) (rest : List UInt8) : Except FrontFault (CodePoint × List UInt8) :=
  if lead < 0x80 then .ok (.ofNat lead.toNat, rest)
  else if lead < 0xC2 || 0xF4 < lead then .error (.invalidStart, 1)
  else match rest with
    | [] => .error (.unexpectedEnd, 1)
    | second :: rest =>
      if lead < 0xE0 then
        if isContinuation second then
          .ok (.ofNat ((lead.toNat - 0xC0) * 0x40 + continuationBits second), rest)
        else .error (.invalidContinuation, 1)
      else if lead < 0xF0 then
        let surrogate := lead == 0xED && 0xA0 ≤ second
        let overlong := lead == 0xE0 && second < 0xA0
        if !isContinuation second || overlong then .error (.invalidContinuation, 1)
        else match rest with
          | [] => .error (if surrogate then (.invalidContinuation, 1) else (.unexpectedEnd, 2))
          | third :: rest =>
            if isContinuation third then
              .ok (.ofNat ((lead.toNat - 0xE0) * 0x1000 + continuationBits second * 0x40
                + continuationBits third), rest)
            else .error (.invalidContinuation, if surrogate then 1 else 2)
      else
        let overlong := lead == 0xF0 && second < 0x90
        let tooLarge := lead == 0xF4 && 0x90 ≤ second
        if !isContinuation second || overlong || tooLarge then .error (.invalidContinuation, 1)
        else match rest with
          | [] => .error (.unexpectedEnd, 2)
          | third :: rest =>
            if !isContinuation third then .error (.invalidContinuation, 2)
            else match rest with
              | [] => .error (.unexpectedEnd, 3)
              | fourth :: rest =>
                if isContinuation fourth then
                  .ok (.ofNat ((lead.toNat - 0xF0) * 0x40000 + continuationBits second * 0x1000
                    + continuationBits third * 0x40 + continuationBits fourth), rest)
                else .error (.invalidContinuation, 3)

/-- Bytes put together to a number. -/
def joinBytes (bigEndian : Bool) (bytes : List UInt8) : Nat :=
  (if bigEndian then bytes else bytes.reverse).foldl
    (fun number byte => number * 256 + byte.toNat) 0

/-- The first code point of UTF-16 bytes and the bytes behind it.  Two surrogates that belong
together are one character. -/
def utf16Front (bigEndian : Bool) (lead : UInt8) (rest : List UInt8) :
    Except FrontFault (CodePoint × List UInt8) :=
  match rest with
  | [] => .error (.truncated, 1)
  | second :: rest =>
    let unit := joinBytes bigEndian [lead, second]
    match rest with
    | third :: fourth :: after =>
      let next := joinBytes bigEndian [third, fourth]
      if isHighSurrogate unit && isLowSurrogate next then
        .ok (.ofNat (joinSurrogates unit next), after)
      else .ok (.ofNat unit, rest)
    | _ => .ok (.ofNat unit, rest)

/-- The first code point of UTF-32 bytes and the bytes behind it. -/
def utf32Front (bigEndian : Bool) (lead : UInt8) (rest : List UInt8) :
    Except FrontFault (CodePoint × List UInt8) :=
  match rest with
  | second :: third :: fourth :: rest =>
    let code := joinBytes bigEndian [lead, second, third, fourth]
    if code < 0x110000 then .ok (.ofNat code, rest) else .error (.outOfRange, 4)
  | _ => .error (.truncated, rest.length + 1)

/-- The first code point of bytes and the bytes behind it. -/
def Encoding.front (encoding : Encoding) (lead : UInt8) (rest : List UInt8) :
    Except FrontFault (CodePoint × List UInt8) :=
  match encoding with
  | .utf8 => utf8Front lead rest
  | .utf16 bigEndian => utf16Front bigEndian lead rest
  | .utf32 bigEndian => utf32Front bigEndian lead rest

/-- Read code points off `bytes`, the first of which stands at `position`; every code point takes at
least one byte, so as many steps as there are bytes suffice. -/
def Encoding.decodeFrom (encoding : Encoding) (position : Nat) : Nat → List UInt8 →
    Except DecodeError (List CodePoint)
  | 0, _ | _, [] => .ok []
  | steps + 1, lead :: rest =>
    match encoding.front lead rest with
    | .error (fault, count) => .error ⟨encoding, fault, position, lead, count⟩
    | .ok (c, after) =>
      match encoding.decodeFrom (position + 1 + rest.length - after.length) steps after with
      | .error error => .error error
      | .ok text => .ok (c :: text)

/-- The encoding of bytes that hold JSON, with the length of its byte order mark and the number that
the place of the first byte behind the mark has. -/
def Encoding.detect (bytes : List UInt8) : Encoding × Nat × Nat :=
  match bytes with
  | 0 :: 0 :: 0xFE :: 0xFF :: _ => (.utf32 true, 4, 4)
  | 0xFF :: 0xFE :: 0 :: 0 :: _ => (.utf32 false, 4, 4)
  | 0xFE :: 0xFF :: _ => (.utf16 true, 2, 2)
  | 0xFF :: 0xFE :: _ => (.utf16 false, 2, 2)
  | 0xEF :: 0xBB :: 0xBF :: _ => (.utf8, 3, 0)
  | 0 :: second :: _ :: _ :: _ => (if second == 0 then .utf32 true else .utf16 true, 0, 0)
  | _ :: 0 :: third :: fourth :: _ =>
    (if third == 0 && fourth == 0 then .utf32 false else .utf16 false, 0, 0)
  | [0, _] => (.utf16 true, 0, 0)
  | [_, 0] => (.utf16 false, 0, 0)
  | _ => (.utf8, 0, 0)

/-- The text that bytes stand for. -/
def decodeBytes (bytes : List UInt8) : Except DecodeError (List CodePoint) :=
  let (encoding, mark, position) := Encoding.detect bytes
  let content := bytes.drop mark
  encoding.decodeFrom position content.length content

/-- Read characters off UTF-8 bytes, in so many steps at most.  What stands for no character is
replaced by the replacement character, byte for byte or front by front. -/
def decodeReplacingIn : Nat → List UInt8 → List Char
  | 0, _ | _, [] => []
  | steps + 1, lead :: rest =>
    match utf8Front lead rest with
    | .error (_, count) =>
      Char.ofNat 0xFFFD :: decodeReplacingIn steps (rest.drop (count - 1))
    | .ok (point, after) => point.replaced ++ decodeReplacingIn steps after

/-- The text that UTF-8 bytes stand for, with replacement characters for what stands for none. -/
def decodeReplacing (bytes : List UInt8) : List Char :=
  decodeReplacingIn bytes.length bytes

/-! ## Texts that can be written -/

/-- Surrogates next to each other, which cannot be written: the code of the first one, and the
places of the first and of the last one. -/
structure EncodeError where
  code : Nat
  first : Nat
  last : Nat
  deriving DecidableEq, Repr

/-- What cannot be written, and where it stands. -/
def EncodeError.message (error : EncodeError) : String :=
  if error.first = error.last then
    "'utf-8' codec can't encode character '\\u" ++ String.ofList (Nat.toDigits 16 error.code)
      ++ "' in position " ++ toString error.first ++ ": surrogates not allowed"
  else
    "'utf-8' codec can't encode characters in position " ++ toString error.first ++ "-"
      ++ toString error.last ++ ": surrogates not allowed"

/-- The first surrogates among code points. -/
def EncodeError.ofPoints (points : List CodePoint) : EncodeError :=
  let front := points.takeWhile fun point => point.char?.isSome
  let run := (points.drop front.length).takeWhile fun point => point.char?.isNone
  ⟨(run.head?.map CodePoint.toNat).getD 0, front.length, front.length + run.length - 1⟩

namespace LooseText

/-- The text as one that can be written, or why it cannot. -/
def encoded (text : LooseText) : Except EncodeError String :=
  match text.text? with
  | some plain => .ok plain
  | none => .error (.ofPoints text.points)

@[simp] theorem encoded_ofString (plain : String) : (ofString plain).encoded = .ok plain := by
  rw [encoded, text?_ofString]

theorem encoded_eq_ok {text : LooseText} {plain : String} :
    text.encoded = .ok plain ↔ text = ofString plain := by
  constructor
  · intro found
    rw [encoded] at found
    split at found
    · next whole =>
      rw [← Except.ok.inj found, ofString_of_text? whole]
    · cases found
  · rintro rfl
    exact encoded_ofString plain

/-- Just the texts without surrogates can be written. -/
theorem exists_encoded_eq_ok_iff {text : LooseText} :
    (∃ plain, text.encoded = .ok plain) ↔ ¬text.HasSurrogate := by
  constructor
  · rintro ⟨plain, writes⟩
    rw [encoded_eq_ok.mp writes]
    exact not_hasSurrogate_ofString plain
  · intro without
    rw [encoded]
    split
    · next plain _ => exact ⟨plain, rfl⟩
    · next missing =>
      exact absurd (hasSurrogate_of_chars? (Option.map_eq_none_iff.mp missing)) without

theorem exists_encoded_eq_error_iff {text : LooseText} :
    (∃ error, text.encoded = .error error) ↔ text.HasSurrogate := by
  constructor
  · rintro ⟨error, fails⟩
    refine Classical.byContradiction fun without => ?_
    obtain ⟨plain, writes⟩ := exists_encoded_eq_ok_iff.mpr without
    cases fails.symm.trans writes
  · intro holds
    cases found : text.encoded with
    | error error => exact ⟨error, rfl⟩
    | ok plain => exact absurd holds (exists_encoded_eq_ok_iff.mp ⟨plain, found⟩)

end LooseText

end CodeComplexity.Text
