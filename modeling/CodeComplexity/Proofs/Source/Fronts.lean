import CodeComplexity.Source.Start

/-!
# Fronts of lines

What the pieces of the pattern for function starts read, said without the pattern: gaps, names,
marks in front of a function, argument lists, and put together from these the fronts of
declarations, bindings and methods.  A line starts a function if and only if one of the three stands
behind its blank space and an export mark.
-/

namespace CodeComplexity.Source

open Text Text.Piece

variable {line : Line} {text rest mark : List CodePoint} {c : CodePoint}

/-! ## Gaps and names -/

/-- Blank space that is there. -/
def IsGap (text : List CodePoint) : Prop :=
  text ≠ [] ∧ allBlank text = true

/-- At least one name character, and nothing else. -/
def IsName (text : List CodePoint) : Prop :=
  text ≠ [] ∧ text.all isNameChar = true

instance (text : List CodePoint) : Decidable (IsName text) :=
  inferInstanceAs (Decidable (_ ∧ _))

def BeginsName (text : List CodePoint) : Prop :=
  ∃ c ∈ text.head?, isNameChar c = true

theorem IsName.beginsName (isName : IsName text) : BeginsName (text ++ rest) := by
  obtain ⟨some_char, all⟩ := isName
  cases text with
  | nil => exact absurd rfl some_char
  | cons c text =>
    rw [List.all_cons, Bool.and_eq_true] at all
    exact ⟨c, rfl, all.1⟩

def blankCodes : List Nat :=
  [9, 10, 11, 12, 13, 0x1C, 0x1D, 0x1E, 0x1F, 0x20, 0x85, 0xA0, 0x1680, 0x2000, 0x2001, 0x2002,
   0x2003, 0x2004, 0x2005, 0x2006, 0x2007, 0x2008, 0x2009, 0x200A, 0x2028, 0x2029, 0x202F, 0x205F,
   0x3000]

theorem toNat_mem_blankCodes {c : Char} (blank : isBlankChar c = true) : c.toNat ∈ blankCodes := by
  simp only [isBlankChar, isWhiteSpace, Bool.or_eq_true, Bool.and_eq_true, decide_eq_true_eq,
    beq_iff_eq] at blank
  simp only [blankCodes, List.mem_cons, List.not_mem_nil, or_false]
  omega

/-- No blank character stands in a name. -/
theorem isNameChar_of_isBlank (blank : isBlank c = true) : isNameChar c = false := by
  have outside : ∀ code ∈ blankCodes, isNameChar (.char (Char.ofNat code)) = false := by
    decide +kernel
  cases c with
  | char c =>
      simpa only [Char.ofNat_toNat] using outside c.toNat (toNat_mem_blankCodes blank)
  | surrogate code => cases blank

def IsTrimmed (text : List CodePoint) : Prop :=
  ∀ c ∈ text.head?, isBlank c = false

theorem isTrimmed_cons (visible : isBlank c = false) : IsTrimmed (c :: text) := by
  rintro _ ⟨⟩
  exact visible

theorem BeginsName.isTrimmed (begins : BeginsName text) : IsTrimmed text := by
  obtain ⟨c, isFirst, isName⟩ := begins
  intro d alsoFirst
  obtain rfl : c = d := Option.some.inj (isFirst.symm.trans alsoFirst)
  cases blank : isBlank c with
  | false => rfl
  | true => exact absurd isName (by simp [isNameChar_of_isBlank blank])

theorem trimStart_of_isTrimmed (trimmed : IsTrimmed text) : trimStart isBlank text = text := by
  cases text with
  | nil => rfl
  | cons c text => exact List.dropWhile_cons_of_neg (by simp [trimmed c rfl])

/-- Blank space in front of a trimmed text is just what is trimmed. -/
theorem trimStart_append {blank : List CodePoint} (blankOnly : allBlank blank = true)
    (trimmed : IsTrimmed text) : trimStart isBlank (blank ++ text) = text := by
  rw [trimStart, List.dropWhile_append_of_pos (List.all_eq_true.mp blankOnly)]
  exact trimStart_of_isTrimmed trimmed

theorem mem_spaces : rest ∈ spaces text ↔ ∃ blank, allBlank blank = true ∧ text = blank ++ rest :=
  mem_many

theorem mem_gap : rest ∈ gap text ↔ ∃ read, IsGap read ∧ text = read ++ rest := by
  simp only [gap, mem_atLeastOne, IsGap, allBlank, and_assoc]

theorem mem_name : rest ∈ name text ↔ ∃ read, IsName read ∧ text = read ++ rest := by
  simp only [name, mem_atLeastOne, IsName, and_assoc]

/-! ## Words at the front -/

/-- No word character comes first, so that a word in front of the text ends there. -/
def WordEnds (text : List CodePoint) : Prop :=
  ∀ c ∈ text.head?, isWord c = false

theorem wordEnds_cons (other : isWord c = false) : WordEnds (c :: text) := by
  rintro _ ⟨⟩
  exact other

/-- The text begins with the word of a control statement, which ends at a word boundary. -/
def BeginsControl (text : List CodePoint) : Prop :=
  ∃ word ∈ controlWords, ∃ behind, WordEnds behind ∧ text = word ++ behind

/-- The words that may stand at the front of a function without being its name. -/
def openingWords : List (List CodePoint) :=
  ["export", "async", "function", "const", "let", "var"].map spelled

/-- The words at the front of a binding. -/
def bindingWords : List (List CodePoint) :=
  ["const", "let", "var"].map spelled

/-- The text begins with one of the opening words, whether it ends there or not. -/
def BeginsOpening (text : List CodePoint) : Prop :=
  ∃ word ∈ openingWords, ∃ behind, text = word ++ behind

theorem BeginsOpening.beginsName (begins : BeginsOpening text) : BeginsName text := by
  obtain ⟨word, isOpening, behind, rfl⟩ := begins
  have isName : ∀ word ∈ openingWords, IsName word := by decide
  exact (isName word isOpening).beginsName

/-- No opening word continues a control word or is continued by one. -/
theorem BeginsOpening.not_beginsControl (begins : BeginsOpening text) : ¬ BeginsControl text := by
  obtain ⟨opening, isOpening, behind, rfl⟩ := begins
  rintro ⟨word, isControl, rest, -, same⟩
  have apart : ∀ opening ∈ openingWords, ∀ word ∈ controlWords,
      ¬ opening <+: word ∧ ¬ word <+: opening := by
    decide
  have opens : opening <+: opening ++ behind := List.prefix_append _ _
  have controls : word <+: opening ++ behind := same ▸ List.prefix_append _ _
  rcases List.prefix_or_prefix_of_prefix opens controls with longer | shorter
  · exact (apart opening isOpening word isControl).1 longer
  · exact (apart opening isOpening word isControl).2 shorter

/-! ## Marks in front of a function -/

/-- `async` and the gap behind it, or nothing. -/
inductive IsAsyncMark : List CodePoint → Prop where
  | absent : IsAsyncMark []
  | present {gap : List CodePoint} : IsGap gap → IsAsyncMark (spelled "async" ++ gap)

/-- `export` or `export default` and the gap behind it, or nothing. -/
inductive IsExportMark : List CodePoint → Prop where
  | absent : IsExportMark []
  | plain {gap : List CodePoint} : IsGap gap → IsExportMark (spelled "export" ++ gap)
  | default {gap behind : List CodePoint} : IsGap gap → IsGap behind →
      IsExportMark (spelled "export" ++ (gap ++ (spelled "default" ++ behind)))

theorem mem_asyncMark :
    rest ∈ asyncMark text ↔ ∃ mark, IsAsyncMark mark ∧ text = mark ++ rest := by
  simp only [asyncMark, mem_optional, mem_inOrder_cons, mem_inOrder_nil, mem_exactly, mem_gap]
  constructor
  · rintro (rfl | ⟨_, rfl, _, ⟨gap, isGap, rfl⟩, rfl⟩)
    · exact ⟨[], .absent, rfl⟩
    · exact ⟨_, .present isGap, (List.append_assoc ..).symm⟩
  · rintro ⟨_, isMark, rfl⟩
    cases isMark with
    | absent => exact .inl rfl
    | present isGap => exact .inr ⟨_, List.append_assoc .., _, ⟨_, isGap, rfl⟩, rfl⟩

theorem mem_exportMark :
    rest ∈ exportMark text ↔ ∃ mark, IsExportMark mark ∧ text = mark ++ rest := by
  simp only [exportMark, mem_optional, mem_inOrder_cons, mem_inOrder_nil, mem_exactly, mem_gap]
  constructor
  · rintro (rfl | ⟨_, rfl, _, ⟨gap, isGap, rfl⟩, _,
      rfl | ⟨_, rfl, _, ⟨behind, isBehind, rfl⟩, rfl⟩, rfl⟩)
    · exact ⟨[], .absent, rfl⟩
    · exact ⟨_, .plain isGap, (List.append_assoc ..).symm⟩
    · exact ⟨_, .default isGap isBehind, by simp only [List.append_assoc]⟩
  · rintro ⟨_, isMark, rfl⟩
    cases isMark with
    | absent => exact .inl rfl
    | plain isGap => exact .inr ⟨_, List.append_assoc .., _, ⟨_, isGap, rfl⟩, _, .inl rfl, rfl⟩
    | default isGap isBehind =>
      refine .inr ⟨_, List.append_assoc .., _, ⟨_, isGap, List.append_assoc ..⟩, rest, .inr ?_, rfl⟩
      exact ⟨_, List.append_assoc .., _, ⟨_, isBehind, rfl⟩, rfl⟩

/-- A mark is absent, or its word is the first of the text. -/
theorem IsAsyncMark.eq_nil_or_beginsOpening (isMark : IsAsyncMark mark) :
    mark = [] ∨ BeginsOpening (mark ++ text) := by
  cases isMark with
  | absent => exact .inl rfl
  | present _ => exact .inr ⟨spelled "async", by decide, _, List.append_assoc ..⟩

/-- A mark is absent, or its word is the first of the text. -/
theorem IsExportMark.eq_nil_or_beginsOpening (isMark : IsExportMark mark) :
    mark = [] ∨ BeginsOpening (mark ++ text) := by
  cases isMark with
  | absent => exact .inl rfl
  | plain _ | default _ _ => exact .inr ⟨spelled "export", by decide, _, List.append_assoc ..⟩

/-! ## Declarations -/

/-- Blank space, which may hold one star. -/
inductive IsStar : List CodePoint → Prop where
  | absent {blank : List CodePoint} : allBlank blank = true → IsStar blank
  | present {blank behind : List CodePoint} : allBlank blank = true → allBlank behind = true →
      IsStar (blank ++ .char '*' :: behind)

/-- The text goes on with the name of a function, or with a star and the name. -/
def NamesFunction (text : List CodePoint) : Prop :=
  ∃ star name rest, IsStar star ∧ IsName name ∧ text = star ++ (name ++ rest)

/-- The text reads as a declaration, wherever the word `function` ends in it. -/
def Declares (text : List CodePoint) : Prop :=
  ∃ mark behind, IsAsyncMark mark ∧ NamesFunction behind ∧
    text = mark ++ (spelled "function" ++ behind)

theorem fits_declaration : declaration.fits text = true ↔ Declares text := by
  simp only [fits_iff, declaration, functionWord, mem_inOrder_cons, mem_inOrder_nil, mem_asyncMark,
    mem_exactly, mem_spaces, mem_optional, mem_name, Declares, NamesFunction]
  constructor
  · rintro ⟨rest, _, ⟨mark, isMark, rfl⟩, _, rfl, _, ⟨blank, blankOnly, rfl⟩, _,
      rfl | ⟨_, rfl, _, ⟨behind, blankBehind, rfl⟩, rfl⟩, _, ⟨name, isName, rfl⟩, rfl⟩
    · exact ⟨mark, _, isMark, ⟨blank, name, rest, .absent blankOnly, isName, rfl⟩, rfl⟩
    · have isStar : IsStar (blank ++ .char '*' :: behind) := .present blankOnly blankBehind
      exact ⟨mark, _, isMark, ⟨_, name, rest, isStar, isName, rfl⟩, by simp⟩
  · rintro ⟨mark, _, isMark, ⟨_, name, rest, isStar, isName, rfl⟩, rfl⟩
    refine ⟨rest, _, ⟨mark, isMark, rfl⟩, _, rfl, ?_⟩
    cases isStar with
    | absent blankOnly => exact ⟨_, ⟨_, blankOnly, rfl⟩, _, .inl rfl, _, ⟨name, isName, rfl⟩, rfl⟩
    | present blankOnly blankBehind =>
      refine ⟨_, ⟨_, blankOnly, List.append_assoc ..⟩, name ++ rest, .inr ?_, _,
        ⟨name, isName, rfl⟩, rfl⟩
      exact ⟨_, rfl, _, ⟨_, blankBehind, rfl⟩, rfl⟩

/-! ## Bindings -/

/-- An argument list, which no closing parenthesis ends before its last character. -/
def IsArguments (text : List CodePoint) : Prop :=
  ∃ inner, .char ')' ∉ inner ∧ text = .char '(' :: (inner ++ [.char ')'])

/-- `const name =`, or the same with `let` or `var`, and the blank space behind it. -/
def IsBindingFront (text : List CodePoint) : Prop :=
  ∃ word ∈ bindingWords, ∃ gap name before after, IsGap gap ∧ IsName name ∧ allBlank before = true ∧
    allBlank after = true ∧ text = word ++ (gap ++ (name ++ (before ++ .char '=' :: after)))

/-- The text goes on with the parameters of an arrow function and the arrow. -/
def BeginsArrow (text : List CodePoint) : Prop :=
  ∃ parameters blank rest, (IsArguments parameters ∨ IsName parameters) ∧ allBlank blank = true ∧
    text = parameters ++ (blank ++ (spelled "=>" ++ rest))

/-- The text reads as a binding, to a word that begins with `function` or to an arrow function. -/
def Binds (text : List CodePoint) : Prop :=
  ∃ front mark body, IsBindingFront front ∧ IsAsyncMark mark ∧ text = front ++ (mark ++ body) ∧
    ((∃ behind, WordEnds behind ∧ body = spelled "function" ++ behind) ∨ BeginsArrow body)

theorem mem_arguments : rest ∈ arguments text ↔ ∃ read, IsArguments read ∧ text = read ++ rest := by
  simp only [arguments, mem_inOrder_cons, mem_inOrder_nil, mem_exactly, mem_many, IsArguments]
  constructor
  · rintro ⟨_, rfl, _, ⟨inner, all, rfl⟩, _, rfl, rfl⟩
    refine ⟨_, ⟨inner, fun closes => ?_, rfl⟩, by simp⟩
    exact absurd (List.all_eq_true.mp all (.char ')') closes) (by decide)
  · rintro ⟨_, ⟨inner, unclosed, rfl⟩, rfl⟩
    refine ⟨inner ++ ([.char ')'] ++ rest), by simp, [.char ')'] ++ rest, ⟨inner, ?_, rfl⟩, rest,
      rfl, rfl⟩
    exact List.all_eq_true.mpr fun c listed => bne_iff_ne.mpr fun same => unclosed (same ▸ listed)

theorem mem_bindingFront :
    rest ∈ inOrder [anyOf bindingWords, gap, name, spaces, exactly [.char '='], spaces] text ↔
      ∃ front, IsBindingFront front ∧ text = front ++ rest := by
  simp only [mem_inOrder_cons, mem_inOrder_nil, mem_anyOf, mem_gap, mem_name, mem_spaces,
    mem_exactly, IsBindingFront]
  constructor
  · rintro ⟨_, ⟨word, listed, rfl⟩, _, ⟨gap, isGap, rfl⟩, _, ⟨name, isName, rfl⟩, _,
      ⟨before, blankBefore, rfl⟩, _, rfl, _, ⟨after, blankAfter, rfl⟩, rfl⟩
    refine ⟨_, ⟨word, listed, gap, name, before, after, isGap, isName, blankBefore, blankAfter,
      rfl⟩, ?_⟩
    simp
  · rintro ⟨_, ⟨word, listed, gap, name, before, after, isGap, isName, blankBefore, blankAfter,
      rfl⟩, rfl⟩
    refine ⟨_, ⟨word, listed, List.append_assoc ..⟩, _, ⟨gap, isGap, List.append_assoc ..⟩, _,
      ⟨name, isName, List.append_assoc ..⟩, _, ⟨before, blankBefore, List.append_assoc ..⟩,
      after ++ rest, rfl, rest, ⟨after, blankAfter, rfl⟩, rfl⟩

theorem mem_arrow :
    rest ∈ arrow text ↔
      ∃ blank, allBlank blank = true ∧ text = blank ++ (spelled "=>" ++ rest) := by
  simp only [arrow, mem_inOrder_cons, mem_inOrder_nil, mem_spaces, mem_exactly]
  constructor
  · rintro ⟨_, ⟨blank, blankOnly, rfl⟩, _, rfl, rfl⟩
    exact ⟨blank, blankOnly, rfl⟩
  · rintro ⟨blank, blankOnly, rfl⟩
    exact ⟨_, ⟨blank, blankOnly, rfl⟩, rest, rfl, rfl⟩

theorem beginsArrow_iff :
    BeginsArrow text ↔
      (∃ rest, rest ∈ inOrder [arguments, arrow] text) ∨
        ∃ rest, rest ∈ inOrder [name, arrow] text := by
  simp only [mem_inOrder_cons, mem_inOrder_nil, mem_arguments, mem_name, mem_arrow, BeginsArrow]
  constructor
  · rintro ⟨parameters, blank, rest, isArguments | isName, blankOnly, rfl⟩
    · exact .inl ⟨rest, _, ⟨parameters, isArguments, rfl⟩, rest, ⟨blank, blankOnly, rfl⟩, rfl⟩
    · exact .inr ⟨rest, _, ⟨parameters, isName, rfl⟩, rest, ⟨blank, blankOnly, rfl⟩, rfl⟩
  · rintro (⟨rest, _, ⟨parameters, isArguments, rfl⟩, _, ⟨blank, blankOnly, rfl⟩, rfl⟩ |
      ⟨rest, _, ⟨parameters, isName, rfl⟩, _, ⟨blank, blankOnly, rfl⟩, rfl⟩)
    · exact ⟨parameters, blank, rest, .inl isArguments, blankOnly, rfl⟩
    · exact ⟨parameters, blank, rest, .inr isName, blankOnly, rfl⟩

theorem mem_functionWord_wordEnd :
    rest ∈ inOrder [functionWord, wordEnd] text ↔
      WordEnds rest ∧ text = spelled "function" ++ rest := by
  simp only [functionWord, mem_inOrder_cons, mem_inOrder_nil, mem_exactly, mem_wordEnd, WordEnds]
  constructor
  · rintro ⟨_, rfl, _, ⟨rfl, ends⟩, rfl⟩
    exact ⟨ends, rfl⟩
  · rintro ⟨ends, rfl⟩
    exact ⟨rest, rfl, rest, ⟨rfl, ends⟩, rfl⟩

theorem exists_mem_bound :
    (∃ rest, rest ∈ orElse (inOrder [functionWord, wordEnd])
        (orElse (inOrder [arguments, arrow]) (inOrder [name, arrow])) text) ↔
      (∃ behind, WordEnds behind ∧ text = spelled "function" ++ behind) ∨ BeginsArrow text := by
  simp only [mem_orElse, exists_or, mem_functionWord_wordEnd, beginsArrow_iff]

theorem fits_binding : binding.fits text = true ↔ Binds text := by
  -- The front of a binding is the same for all that may be bound, and is read on its own.
  have in_two : binding =
      inOrder ([anyOf bindingWords, gap, name, spaces, exactly [.char '='], spaces] ++
      [asyncMark, orElse (inOrder [functionWord, wordEnd])
        (orElse (inOrder [arguments, arrow]) (inOrder [name, arrow]))]) := rfl
  rw [fits_iff, in_two]
  constructor
  · rintro ⟨rest, read⟩
    obtain ⟨_, readFront, readOn⟩ := mem_inOrder_append.mp read
    obtain ⟨front, isFront, rfl⟩ := mem_bindingFront.mp readFront
    obtain ⟨_, readMark, readBound⟩ := mem_inOrder_cons.mp readOn
    obtain ⟨mark, isMark, rfl⟩ := mem_asyncMark.mp readMark
    obtain ⟨_, readBound, -⟩ := mem_inOrder_cons.mp readBound
    exact ⟨front, mark, _, isFront, isMark, rfl, exists_mem_bound.mp ⟨_, readBound⟩⟩
  · rintro ⟨front, mark, body, isFront, isMark, rfl, bound⟩
    obtain ⟨rest, readBound⟩ := exists_mem_bound.mpr bound
    refine ⟨rest, mem_inOrder_append.mpr ⟨_, mem_bindingFront.mpr ⟨front, isFront, rfl⟩, ?_⟩⟩
    refine mem_inOrder_cons.mpr ⟨body, mem_asyncMark.mpr ⟨mark, isMark, rfl⟩, ?_⟩
    exact mem_inOrder_cons.mpr ⟨rest, readBound, mem_inOrder_nil.mpr rfl⟩

/-! ## Methods -/

/-- The text goes on with an argument list and an opening brace. -/
def OpensBlock (text : List CodePoint) : Prop :=
  ∃ before arguments after rest, allBlank before = true ∧ IsArguments arguments ∧
    allBlank after = true ∧ text = before ++ (arguments ++ (after ++ .char '{' :: rest))

/-- The text reads as a method, `async` or not, and does not begin with a control statement. -/
def OpensMethod (text : List CodePoint) : Prop :=
  ¬ BeginsControl text ∧ ∃ mark name behind, IsAsyncMark mark ∧ IsName name ∧ OpensBlock behind ∧
    text = mark ++ (name ++ behind)

theorem controlAhead_eq_nil_iff :
    inOrder [anyOf controlWords, wordEnd] text = [] ↔ ¬ BeginsControl text := by
  simp only [List.eq_nil_iff_forall_not_mem, mem_inOrder_cons, mem_inOrder_nil, mem_anyOf,
    mem_wordEnd, BeginsControl, WordEnds]
  constructor
  · rintro unread ⟨word, isControl, behind, ends, rfl⟩
    exact unread behind ⟨behind, ⟨word, isControl, rfl⟩, behind, ⟨rfl, ends⟩, rfl⟩
  · rintro other _ ⟨behind, ⟨word, isControl, rfl⟩, _, ⟨rfl, ends⟩, rfl⟩
    exact other ⟨word, isControl, _, ends, rfl⟩

theorem mem_methodFront :
    rest ∈ inOrder [notAhead (inOrder [anyOf controlWords, wordEnd]), asyncMark, name] text ↔
      ¬ BeginsControl text ∧ ∃ mark name, IsAsyncMark mark ∧ IsName name ∧
        text = mark ++ (name ++ rest) := by
  simp only [mem_inOrder_cons, mem_inOrder_nil, mem_notAhead, controlAhead_eq_nil_iff,
    mem_asyncMark, mem_name]
  constructor
  · rintro ⟨_, ⟨rfl, other⟩, _, ⟨mark, isMark, rfl⟩, _, ⟨name, isName, rfl⟩, rfl⟩
    exact ⟨other, mark, name, isMark, isName, rfl⟩
  · rintro ⟨other, mark, name, isMark, isName, rfl⟩
    exact ⟨_, ⟨rfl, other⟩, _, ⟨mark, isMark, rfl⟩, rest, ⟨name, isName, rfl⟩, rfl⟩

theorem exists_mem_block :
    (∃ rest, rest ∈ inOrder [spaces, arguments, spaces, exactly [.char '{']] text) ↔
      OpensBlock text := by
  simp only [mem_inOrder_cons, mem_inOrder_nil, mem_spaces, mem_arguments, mem_exactly, OpensBlock]
  constructor
  · rintro ⟨rest, _, ⟨before, blankBefore, rfl⟩, _, ⟨arguments, isArguments, rfl⟩, _,
      ⟨after, blankAfter, rfl⟩, _, rfl, rfl⟩
    exact ⟨before, arguments, after, rest, blankBefore, isArguments, blankAfter, rfl⟩
  · rintro ⟨before, arguments, after, rest, blankBefore, isArguments, blankAfter, rfl⟩
    exact ⟨rest, _, ⟨before, blankBefore, rfl⟩, _, ⟨arguments, isArguments, rfl⟩, _,
      ⟨after, blankAfter, rfl⟩, rest, rfl, rfl⟩

theorem fits_method : method.fits text = true ↔ OpensMethod text := by
  have in_two : method =
      inOrder ([notAhead (inOrder [anyOf controlWords, wordEnd]), asyncMark, name] ++
      [spaces, arguments, spaces, exactly [.char '{']]) := rfl
  rw [fits_iff, in_two]
  constructor
  · rintro ⟨rest, read⟩
    obtain ⟨behind, readFront, readBlock⟩ := mem_inOrder_append.mp read
    obtain ⟨other, mark, name, isMark, isName, rfl⟩ := mem_methodFront.mp readFront
    exact ⟨other, mark, name, behind, isMark, isName, exists_mem_block.mp ⟨rest, readBlock⟩, rfl⟩
  · rintro ⟨other, mark, name, behind, isMark, isName, opens, same⟩
    obtain ⟨rest, readBlock⟩ := exists_mem_block.mpr opens
    have readFront := mem_methodFront.mpr ⟨other, mark, name, isMark, isName, same⟩
    exact ⟨rest, mem_inOrder_append.mpr ⟨behind, readFront, readBlock⟩⟩

/-! ## Lines -/

/-- What stands at the front of a line that starts a function, behind its export mark. -/
def ReadsAsFunction (text : List CodePoint) : Prop :=
  Declares text ∨ Binds text ∨ OpensMethod text

theorem Declares.beginsOpening (declares : Declares text) : BeginsOpening text := by
  obtain ⟨mark, behind, isMark, -, rfl⟩ := declares
  rcases isMark.eq_nil_or_beginsOpening with rfl | begins
  · exact ⟨spelled "function", by decide, behind, rfl⟩
  · exact begins

theorem Binds.beginsOpening (binds : Binds text) : BeginsOpening text := by
  obtain ⟨_, mark, body, ⟨word, isBinding, _, _, _, _, -, -, -, -, rfl⟩, -, rfl, -⟩ := binds
  have among : ∀ word ∈ bindingWords, word ∈ openingWords := by decide
  exact ⟨word, among word isBinding, _, List.append_assoc ..⟩

theorem ReadsAsFunction.beginsName (reads : ReadsAsFunction text) : BeginsName text := by
  rcases reads with declares | binds | ⟨-, mark, name, behind, isMark, isName, -, rfl⟩
  · exact declares.beginsOpening.beginsName
  · exact binds.beginsOpening.beginsName
  · rcases isMark.eq_nil_or_beginsOpening with rfl | begins
    · exact isName.beginsName
    · exact begins.beginsName

/-- No function begins with the word of a control statement. -/
theorem ReadsAsFunction.not_beginsControl (reads : ReadsAsFunction text) :
    ¬ BeginsControl text := by
  rcases reads with declares | binds | opens
  · exact declares.beginsOpening.not_beginsControl
  · exact binds.beginsOpening.not_beginsControl
  · exact opens.1

theorem exists_mem_function :
    (∃ rest, rest ∈ orElse declaration (orElse binding method) text) ↔ ReadsAsFunction text := by
  simp only [mem_orElse, exists_or, ← fits_iff, fits_declaration, fits_binding, fits_method,
    ReadsAsFunction]

/-- A line starts a function if and only if one stands at its front, behind its blank space and an
export mark. -/
theorem isFunctionStart_iff :
    isFunctionStart line = true ↔
      ∃ mark text, trimStart isBlank line = mark ++ text ∧ IsExportMark mark ∧
        ReadsAsFunction text := by
  rw [isFunctionStart, fits_iff]
  simp only [functionStart, mem_inOrder_cons, mem_inOrder_nil, mem_spaces, mem_exportMark]
  constructor
  · rintro ⟨_, _, ⟨blank, blankOnly, rfl⟩, text, ⟨mark, isMark, rfl⟩, rest, read, rfl⟩
    have reads := exists_mem_function.mp ⟨_, read⟩
    have begins : BeginsName (mark ++ text) := by
      rcases isMark.eq_nil_or_beginsOpening with rfl | begins
      · exact reads.beginsName
      · exact begins.beginsName
    exact ⟨mark, text, trimStart_append blankOnly begins.isTrimmed, isMark, reads⟩
  · rintro ⟨mark, text, trimmed, isMark, reads⟩
    -- Reading stops behind all the blank space, which is where the trimmed line begins.
    obtain ⟨rest, read⟩ := exists_mem_function.mpr reads
    refine ⟨rest, mark ++ text, ⟨line.takeWhile isBlank, List.all_takeWhile, ?_⟩, text,
      ⟨mark, isMark, rfl⟩, rest, read, rfl⟩
    rw [← trimmed, trimStart, List.takeWhile_append_dropWhile]

end CodeComplexity.Source
