import CodeComplexity.Text.CodePoint

/-!
# Pieces of a line pattern

A piece reads the front of a text in every way it can: it maps a text to the list of what may be
left over.  Sequences, choices and repetitions are built from single characters, and a text fits a
piece when there is at least one way to read it.  The membership lemmas say for each construction
which texts may be left over; nothing else about a piece matters.
-/

namespace CodeComplexity.Text

/-- Reads the front of a text; lists what is left over, once for each way to read it. -/
abbrev Piece := List CodePoint → List (List CodePoint)

namespace Piece

/-- One character of a class. -/
def one (inClass : CodePoint → Bool) : Piece
  | [] => []
  | c :: rest => if inClass c then [rest] else []

/-- A word, character by character. -/
def exactly : List CodePoint → Piece
  | [], text => [text]
  | _ :: _, [] => []
  | expected :: more, c :: rest => if c = expected then exactly more rest else []

/-- Any number of characters of a class, none included. -/
def many (inClass : CodePoint → Bool) : Piece
  | [] => [[]]
  | c :: rest => (c :: rest) :: if inClass c then many inClass rest else []

/-- One piece and then another. -/
def andThen (first second : Piece) : Piece :=
  fun text => (first text).flatMap second

def atLeastOne (inClass : CodePoint → Bool) : Piece :=
  andThen (one inClass) (many inClass)

def optional (piece : Piece) : Piece :=
  fun text => text :: piece text

def orElse (first second : Piece) : Piece :=
  fun text => first text ++ second text

/-- Any of several words. -/
def anyOf (words : List (List CodePoint)) : Piece :=
  fun text => words.flatMap fun word => exactly word text

/-- Nothing, where the text does not fit the given piece. -/
def notAhead (piece : Piece) : Piece :=
  fun text => if (piece text).isEmpty then [text] else []

/-- Nothing, where no word character follows: the end of a word that has just been read. -/
def wordEnd : Piece
  | [] => [[]]
  | c :: rest => if isWord c then [] else [c :: rest]

/-- The pieces of a list, one after the other. -/
def inOrder : List Piece → Piece
  | [], text => [text]
  | piece :: pieces, text => (piece text).flatMap (inOrder pieces)

/-- Whether the front of a text can be read as the piece. -/
def fits (piece : Piece) (text : List CodePoint) : Bool :=
  !(piece text).isEmpty

variable {rest text : List CodePoint} {piece first second : Piece} {inClass : CodePoint → Bool}

theorem fits_iff : fits piece text = true ↔ ∃ rest, rest ∈ piece text := by
  cases found : piece text with
  | nil => simp [fits, found]
  | cons left others =>
    simp only [fits, found, List.isEmpty_cons, Bool.not_false, true_iff]
    exact ⟨left, List.mem_cons_self⟩

@[simp] theorem mem_one : rest ∈ one inClass text ↔ ∃ c, inClass c = true ∧ text = c :: rest := by
  cases text with
  | nil => simp [one]
  | cons c left =>
    simp only [one]
    split
    · next holds =>
      rw [List.mem_singleton]
      constructor
      · rintro rfl
        exact ⟨c, holds, rfl⟩
      · rintro ⟨_, _, same⟩
        exact (List.cons.inj same).2.symm
    · next fails =>
      simp only [List.not_mem_nil, List.cons.injEq, false_iff]
      rintro ⟨_, holds, rfl, _⟩
      exact fails holds

@[simp] theorem mem_exactly {word : List CodePoint} :
    rest ∈ exactly word text ↔ text = word ++ rest := by
  induction word generalizing text with
  | nil => simp [exactly, eq_comm]
  | cons expected more ih =>
    cases text with
    | nil => simp [exactly]
    | cons c left =>
      simp only [exactly]
      split
      · next same => simp [ih, same]
      · next other => simp [other]

@[simp] theorem mem_many :
    rest ∈ many inClass text ↔ ∃ read, read.all inClass = true ∧ text = read ++ rest := by
  induction text with
  | nil =>
    simp only [many, List.mem_singleton, List.nil_eq, List.append_eq_nil_iff]
    exact ⟨fun h => ⟨[], rfl, rfl, h⟩, fun ⟨_, _, _, h⟩ => h⟩
  | cons c left ih =>
    simp only [many, List.mem_cons]
    constructor
    · rintro (rfl | more)
      · exact ⟨[], rfl, rfl⟩
      · split at more
        · next holds =>
          obtain ⟨read, all, rfl⟩ := ih.1 more
          exact ⟨c :: read, by simp [holds, all], rfl⟩
        · simp at more
    · rintro ⟨read, all, same⟩
      cases read with
      | nil => exact Or.inl same.symm
      | cons d read =>
        simp only [List.cons_append, List.cons.injEq] at same
        obtain ⟨rfl, rfl⟩ := same
        simp only [List.all_cons, Bool.and_eq_true] at all
        exact Or.inr (by simpa [all.1] using ih.2 ⟨read, all.2, rfl⟩)

@[simp] theorem mem_andThen :
    rest ∈ andThen first second text ↔ ∃ mid ∈ first text, rest ∈ second mid := by
  simp [andThen]

@[simp] theorem mem_atLeastOne :
    rest ∈ atLeastOne inClass text ↔
      ∃ read, read ≠ [] ∧ read.all inClass = true ∧ text = read ++ rest := by
  simp only [atLeastOne, mem_andThen, mem_one, mem_many]
  constructor
  · rintro ⟨_, ⟨c, holds, rfl⟩, read, all, rfl⟩
    exact ⟨c :: read, List.cons_ne_nil c read, by simp [holds, all], rfl⟩
  · rintro ⟨read, some_char, all, rfl⟩
    cases read with
    | nil => exact absurd rfl some_char
    | cons c read =>
      simp only [List.all_cons, Bool.and_eq_true] at all
      exact ⟨read ++ rest, ⟨c, all.1, rfl⟩, read, all.2, rfl⟩

@[simp] theorem mem_optional : rest ∈ optional piece text ↔ rest = text ∨ rest ∈ piece text := by
  simp [optional]

@[simp] theorem mem_orElse :
    rest ∈ orElse first second text ↔ rest ∈ first text ∨ rest ∈ second text := by
  simp [orElse]

@[simp] theorem mem_anyOf {words : List (List CodePoint)} :
    rest ∈ anyOf words text ↔ ∃ word ∈ words, text = word ++ rest := by
  simp [anyOf]

@[simp] theorem mem_notAhead : rest ∈ notAhead piece text ↔ rest = text ∧ piece text = [] := by
  simp only [notAhead, List.isEmpty_iff]
  split <;> simp_all

@[simp] theorem mem_wordEnd :
    rest ∈ wordEnd text ↔ rest = text ∧ ∀ c ∈ text.head?, isWord c = false := by
  cases text with
  | nil => simp [wordEnd]
  | cons c left =>
    simp only [wordEnd, List.head?_cons, Option.mem_def, Option.some.injEq, forall_eq']
    split <;> simp_all

@[simp] theorem mem_inOrder_nil : rest ∈ inOrder [] text ↔ rest = text := by
  simp [inOrder]

@[simp] theorem mem_inOrder_cons {pieces : List Piece} :
    rest ∈ inOrder (piece :: pieces) text ↔ ∃ mid ∈ piece text, rest ∈ inOrder pieces mid := by
  simp [inOrder]

theorem mem_inOrder_append {front back : List Piece} :
    rest ∈ inOrder (front ++ back) text ↔ ∃ mid ∈ inOrder front text, rest ∈ inOrder back mid := by
  induction front generalizing text with
  | nil => simp
  | cons piece front ih =>
    simp only [List.cons_append, mem_inOrder_cons, ih]
    constructor
    · rintro ⟨mid, read, further, readOn, last⟩
      exact ⟨further, ⟨mid, read, readOn⟩, last⟩
    · rintro ⟨further, ⟨mid, read, readOn⟩, last⟩
      exact ⟨mid, read, further, readOn, last⟩

end Piece

end CodeComplexity.Text
