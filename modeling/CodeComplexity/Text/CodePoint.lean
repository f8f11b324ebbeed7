import CodeComplexity.Text.Blank
import CodeComplexity.Text.Word

/-!
# Code points

Text from outside may hold surrogates that stand on their own, which are no characters.  A
`LooseText` is such a text: a sequence of code points, most of which are characters.  A surrogate
belongs to no class of characters: it is neither blank nor part of a word.  `LooseText.text?` gives
the text back that holds nothing but characters, and `LooseText.text?_ofString` says that it gives
back what it was made from.
-/

namespace CodeComplexity.Text

def isHighSurrogate (code : Nat) : Bool := 0xD800 ≤ code && code ≤ 0xDBFF

def isLowSurrogate (code : Nat) : Bool := 0xDC00 ≤ code && code ≤ 0xDFFF

/-- The code point of two surrogates that belong together. -/
def joinSurrogates (high low : Nat) : Nat :=
  0x10000 + (high - 0xD800) * 0x400 + (low - 0xDC00)

/-- A character, or a surrogate on its own. -/
inductive CodePoint where
  | char (c : Char)
  | surrogate (code : Nat)
  deriving DecidableEq, Repr

instance : Coe Char CodePoint :=
  ⟨.char⟩

/-- The code points of a word. -/
def spelled (word : String) : List CodePoint :=
  word.toList.map .char

namespace CodePoint

def ofNat (code : Nat) : CodePoint :=
  if isHighSurrogate code || isLowSurrogate code then .surrogate code else .char (Char.ofNat code)

def toNat : CodePoint → Nat
  | char c => c.toNat
  | surrogate code => code

/-- The character of a code point, if it is one. -/
def char? : CodePoint → Option Char
  | char c => some c
  | surrogate _ => none

/-- The code point with its character changed, if it is one. -/
def map (change : Char → Char) : CodePoint → CodePoint
  | char c => char (change c)
  | surrogate code => surrogate code

/-- The characters in place of a code point: a surrogate on its own is replaced by one replacement
character for each of the three bytes that it would take. -/
def replaced : CodePoint → List Char
  | char c => [c]
  | surrogate _ => List.replicate 3 (Char.ofNat 0xFFFD)

end CodePoint

/-- Blank space in source text. -/
def isBlank : CodePoint → Bool
  | .char c => isBlankChar c
  | .surrogate _ => false

def isWord : CodePoint → Bool
  | .char c => isWordChar c
  | .surrogate _ => false

/-- A text that holds nothing but blank space, or nothing at all. -/
def allBlank (text : List CodePoint) : Bool :=
  text.all isBlank

/-- A text that may hold surrogates on their own. -/
@[ext]
structure LooseText where
  points : List CodePoint
  deriving DecidableEq, Repr, Inhabited

namespace LooseText

/-- A text without surrogates. -/
def ofString (text : String) : LooseText :=
  ⟨spelled text⟩

instance : Coe String LooseText :=
  ⟨ofString⟩

instance : Append LooseText :=
  ⟨fun front back => ⟨front.points ++ back.points⟩⟩

/-- The characters of code points, unless there is a surrogate among them. -/
def chars? : List CodePoint → Option (List Char)
  | [] => some []
  | .char c :: rest => (chars? rest).map (c :: ·)
  | .surrogate _ :: _ => none

/-- The text, unless there is a surrogate in it. -/
def text? (text : LooseText) : Option String :=
  (chars? text.points).map String.ofList

/-- A text holds a surrogate on its own. -/
def HasSurrogate (text : LooseText) : Prop :=
  ∃ code, .surrogate code ∈ text.points

instance (text : LooseText) : Decidable text.HasSurrogate :=
  decidable_of_iff (∃ point ∈ text.points, point.char? = none) (by
    constructor
    · rintro ⟨point, listed, none⟩
      cases point with
      | char c => cases none
      | surrogate code => exact ⟨code, listed⟩
    · rintro ⟨code, listed⟩
      exact ⟨_, listed, rfl⟩)

/-- The text with replacement characters in place of its surrogates. -/
def replaced (text : LooseText) : String :=
  String.ofList (text.points.flatMap CodePoint.replaced)

/-- The characters of the text, with a replacement character in the place of each surrogate. -/
def standIns (text : LooseText) : List Char :=
  text.points.map fun point => point.char?.getD (Char.ofNat 0xFFFD)

/-- The text with its characters changed. -/
def map (change : Char → Char) (text : LooseText) : LooseText :=
  ⟨text.points.map (CodePoint.map change)⟩

/-- Whether a text is one of a few. -/
def isAmong (texts : List String) (text : LooseText) : Bool :=
  texts.any fun known => ofString known = text

/-- The text without blank space at its end. -/
def trimEnd (text : LooseText) : LooseText :=
  ⟨Text.trimEnd isBlank text.points⟩

@[simp] theorem points_append (front back : LooseText) :
    (front ++ back).points = front.points ++ back.points :=
  rfl

@[simp] theorem points_ofString (text : String) : (ofString text).points = spelled text :=
  rfl

theorem append_left_cancel {front first second : LooseText}
    (same : front ++ first = front ++ second) :
    first = second := by
  have points : front.points ++ first.points = front.points ++ second.points :=
    congrArg LooseText.points same
  cases first
  cases second
  rw [LooseText.mk.injEq]
  exact List.append_cancel_left points

@[simp] theorem chars?_map_char (chars : List Char) : chars? (chars.map .char) = some chars := by
  induction chars with
  | nil => rfl
  | cons c rest ih => simp [chars?, ih]

@[simp] theorem text?_ofString (text : String) : (ofString text).text? = some text := by
  simp [text?, ofString, spelled]

theorem ofString_injective {first second : String} (same : ofString first = ofString second) :
    first = second := by
  have texts : (ofString first).text? = (ofString second).text? := by rw [same]
  simpa using texts

@[simp] theorem ofString_inj {first second : String} :
    ofString first = ofString second ↔ first = second :=
  ⟨ofString_injective, congrArg ofString⟩

/-- Code points that are all characters are those of a text. -/
theorem map_char_of_chars? {points : List CodePoint} {chars : List Char}
    (found : chars? points = some chars) : chars.map .char = points := by
  induction points generalizing chars with
  | nil =>
      cases found
      rfl
  | cons point rest ih =>
      cases point with
      | char c =>
          simp only [chars?, Option.map_eq_some_iff] at found
          obtain ⟨others, among, rfl⟩ := found
          rw [List.map_cons, ih among]
      | surrogate code => cases found

theorem ofString_of_text? {loose : LooseText} {text : String} (found : loose.text? = some text) :
    ofString text = loose := by
  obtain ⟨chars, among, rfl⟩ := Option.map_eq_some_iff.mp found
  rw [ofString, spelled, String.toList_ofList, map_char_of_chars? among]

theorem not_hasSurrogate_ofString (text : String) : ¬(ofString text).HasSurrogate := by
  rintro ⟨code, listed⟩
  obtain ⟨c, -, same⟩ := List.mem_map.mp listed
  cases same

theorem hasSurrogate_of_chars? {points : List CodePoint} (missing : chars? points = none) :
    ∃ code, .surrogate code ∈ points := by
  induction points with
  | nil => cases missing
  | cons point rest ih =>
      cases point with
      | surrogate code => exact ⟨code, List.mem_cons_self⟩
      | char c =>
          obtain ⟨code, listed⟩ := ih (Option.map_eq_none_iff.mp missing)
          exact ⟨code, List.mem_cons_of_mem _ listed⟩

end LooseText

end CodeComplexity.Text
