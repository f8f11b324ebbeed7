import CodeComplexity.Proofs.Source.Fronts

/-!
# First names

The first name of a text is read as far as it goes.  With the name that may follow it, it tells
where the marks in front of a function and the front of a binding end.  So a text is taken apart
into a mark and what stands behind it in one way only, as long as that does not look like a further
mark.
-/

namespace CodeComplexity.Source

open Text

variable {text behind mark front word gap : List CodePoint}

/-- The maximal run of name characters at the front of a text. -/
def firstName (text : List CodePoint) : List CodePoint :=
  text.takeWhile isNameChar

def behindName (text : List CodePoint) : List CodePoint :=
  text.dropWhile isNameChar

theorem firstName_append_behindName (text : List CodePoint) :
    firstName text ++ behindName text = text :=
  List.takeWhile_append_dropWhile

theorem eq_append_behindName (inParts : firstName text = word ++ behind) :
    text = word ++ (behind ++ behindName text) := by
  rw [← List.append_assoc, ← inParts, firstName_append_behindName]

theorem firstName_append (all : word.all isNameChar = true) :
    firstName (word ++ text) = word ++ firstName text :=
  List.takeWhile_append_of_pos (List.all_eq_true.mp all)

theorem behindName_append (all : word.all isNameChar = true) :
    behindName (word ++ text) = behindName text :=
  List.dropWhile_append_of_pos (List.all_eq_true.mp all)

theorem firstName_of_not_beginsName (ends : ¬ BeginsName text) : firstName text = [] := by
  cases text with
  | nil => rfl
  | cons c text => exact List.takeWhile_cons_of_neg fun isName => ends ⟨c, rfl, isName⟩

theorem behindName_of_not_beginsName (ends : ¬ BeginsName text) : behindName text = text := by
  cases text with
  | nil => rfl
  | cons c text => exact List.dropWhile_cons_of_neg fun isName => ends ⟨c, rfl, isName⟩

theorem beginsName_iff : BeginsName text ↔ firstName text ≠ [] := by
  constructor
  · rintro ⟨c, isFirst, isName⟩
    cases text with
    | nil => cases isFirst
    | cons d text =>
      obtain rfl : d = c := Option.some.inj isFirst
      rw [firstName, List.takeWhile_cons_of_pos isName]
      exact List.cons_ne_nil _ _
  · intro some_char
    exact Classical.byContradiction fun ends => some_char (firstName_of_not_beginsName ends)

theorem isName_firstName (begins : BeginsName text) : IsName (firstName text) :=
  ⟨beginsName_iff.mp begins, List.all_takeWhile⟩

theorem not_beginsName_behindName (text : List CodePoint) : ¬ BeginsName (behindName text) := by
  rintro ⟨c, isFirst, isName⟩
  have ends := List.head?_dropWhile_not isNameChar text
  rw [behindName] at isFirst
  rw [Option.mem_def.mp isFirst] at ends
  exact absurd isName (by simpa using ends)

/-- A name that does not go on is the first one. -/
theorem IsName.firstName_eq (isName : IsName word) (ends : ¬ BeginsName behind) :
    firstName (word ++ behind) = word := by
  rw [firstName_append isName.2, firstName_of_not_beginsName ends, List.append_nil]

theorem IsName.behindName_eq (isName : IsName word) (ends : ¬ BeginsName behind) :
    behindName (word ++ behind) = behind := by
  rw [behindName_append isName.2, behindName_of_not_beginsName ends]

/-! ## Where a name ends -/

theorem not_beginsName_cons {c : CodePoint} (other : isNameChar c = false) :
    ¬ BeginsName (c :: text) := by
  rintro ⟨d, isFirst, isName⟩
  obtain rfl : c = d := Option.some.inj isFirst
  exact absurd isName (by simp [other])

theorem IsGap.not_beginsName (isGap : IsGap gap) : ¬ BeginsName (gap ++ text) := by
  obtain ⟨some_char, blankOnly⟩ := isGap
  cases gap with
  | nil => exact absurd rfl some_char
  | cons c gap =>
    rw [allBlank, List.all_cons, Bool.and_eq_true] at blankOnly
    exact not_beginsName_cons (isNameChar_of_isBlank blankOnly.1)

theorem not_beginsName_append {blank : List CodePoint} (blankOnly : allBlank blank = true)
    (ends : ¬ BeginsName text) : ¬ BeginsName (blank ++ text) := by
  by_cases nothing : blank = []
  · rwa [nothing, List.nil_append]
  · exact IsGap.not_beginsName ⟨nothing, blankOnly⟩

theorem IsStar.not_beginsName {star : List CodePoint} (isStar : IsStar star)
    (some_char : star ≠ []) :
    ¬ BeginsName (star ++ text) := by
  cases isStar with
  | absent blankOnly => exact IsGap.not_beginsName ⟨some_char, blankOnly⟩
  | present blankOnly _ =>
    rw [List.append_assoc]
    exact not_beginsName_append blankOnly (not_beginsName_cons (by decide))

theorem OpensBlock.not_beginsName (opens : OpensBlock text) : ¬ BeginsName text := by
  obtain ⟨_, _, _, _, blankBefore, ⟨_, -, rfl⟩, -, rfl⟩ := opens
  exact not_beginsName_append blankBefore (not_beginsName_cons (by decide))

theorem wordEnds_of_not_beginsName (ends : ¬ BeginsName text) : WordEnds text := by
  intro c isFirst
  cases isWord_c : isWord c with
  | false => rfl
  | true => exact absurd ⟨c, isFirst, by simp [isNameChar, isWord_c]⟩ ends

/-- A word may end in front of a name character only if that is a dollar. -/
theorem WordEnds.eq_dollar_cons (ends : WordEnds text) (begins : BeginsName text) :
    ∃ rest, text = .char '$' :: rest := by
  obtain ⟨c, isFirst, isName⟩ := begins
  cases text with
  | nil => cases isFirst
  | cons d rest =>
    obtain rfl : d = c := Option.some.inj isFirst
    have dollar : d = .char '$' := by simpa [isNameChar, ends d rfl] using isName
    exact ⟨rest, by rw [dollar]⟩

/-! ## What follows a name -/

/-- The text behind its first name and the blank space there. -/
def afterName (text : List CodePoint) : List CodePoint :=
  trimStart isBlank (behindName text)

theorem afterName_blank {blank : List CodePoint} (isName : IsName word)
    (blankOnly : allBlank blank = true)
    (ends : ¬ BeginsName text) (trimmed : IsTrimmed text) :
    afterName (word ++ (blank ++ text)) = text := by
  rw [afterName, isName.behindName_eq (not_beginsName_append blankOnly ends),
    trimStart_append blankOnly trimmed]

theorem afterName_gap (isName : IsName word) (isGap : IsGap gap) (trimmed : IsTrimmed text) :
    afterName (word ++ (gap ++ text)) = text := by
  rw [afterName, isName.behindName_eq isGap.not_beginsName, trimStart_append isGap.2 trimmed]

/-- In front of an argument list no further name stands. -/
theorem OpensBlock.not_beginsName_afterName (opens : OpensBlock (behindName text)) :
    ¬ BeginsName (afterName text) := by
  obtain ⟨before, _, after, rest, blankBefore, ⟨inner, -, rfl⟩, -, same⟩ := opens
  have bracket : IsTrimmed (.char '(' :: (inner ++ [.char ')']) ++ (after ++ .char '{' :: rest)) :=
    isTrimmed_cons (by decide)
  rw [afterName, same, trimStart_append blankBefore bracket]
  exact not_beginsName_cons (by decide)

/-- Between the parameter of an arrow function and the arrow no further name stands. -/
theorem BeginsArrow.not_beginsName_afterName (arrow : BeginsArrow text) :
    ¬ BeginsName (afterName text) := by
  obtain ⟨_, blank, rest, ⟨inner, -, rfl⟩ | isName, blankOnly, rfl⟩ := arrow
  · have bracket :
      ¬ BeginsName (.char '(' :: (inner ++ [.char ')']) ++ (blank ++ (spelled "=>" ++ rest))) :=
      not_beginsName_cons (by decide)
    have trimmed :
        IsTrimmed (.char '(' :: (inner ++ [.char ')']) ++ (blank ++ (spelled "=>" ++ rest))) :=
      isTrimmed_cons (by decide)
    rwa [afterName, behindName_of_not_beginsName bracket, trimStart_of_isTrimmed trimmed]
  · have ends : ¬ BeginsName (spelled "=>" ++ rest) := not_beginsName_cons (by decide)
    have trimmed : IsTrimmed (spelled "=>" ++ rest) := isTrimmed_cons (by decide)
    rwa [afterName_blank isName blankOnly ends trimmed]

theorem BeginsArrow.isTrimmed (arrow : BeginsArrow text) : IsTrimmed text := by
  obtain ⟨_, _, _, ⟨_, -, rfl⟩ | isName, -, rfl⟩ := arrow
  · exact isTrimmed_cons (by decide)
  · exact isName.beginsName.isTrimmed

/-! ## Marks are read in one way -/

/-- The text behind the word and its gap if the word is the first name and a further name follows,
and the whole text else. -/
def behindWord (word text : List CodePoint) : List CodePoint :=
  if firstName text = word ∧ firstName (afterName text) ≠ [] then afterName text else text

theorem behindWord_gap (isName : IsName word) (isGap : IsGap gap) (begins : BeginsName text) :
    behindWord word (word ++ (gap ++ text)) = text := by
  have first : firstName (word ++ (gap ++ text)) = word := isName.firstName_eq isGap.not_beginsName
  have after : afterName (word ++ (gap ++ text)) = text :=
    afterName_gap isName isGap begins.isTrimmed
  rw [behindWord, first, after, if_pos ⟨rfl, beginsName_iff.mp begins⟩]

theorem behindWord_eq_self (alone : firstName text = word → ¬ BeginsName (afterName text)) :
    behindWord word text = text :=
  if_neg fun ⟨first, further⟩ => alone first (beginsName_iff.mpr further)

/-- The text behind `async`, if a name follows it. -/
def behindAsync (text : List CodePoint) : List CodePoint :=
  behindWord (spelled "async") text

/-- The text behind `export` or `export default`, if a name follows it. -/
def behindExport (text : List CodePoint) : List CodePoint :=
  behindWord (spelled "default") (behindWord (spelled "export") text)

theorem IsAsyncMark.behindAsync_append (isMark : IsAsyncMark mark) (begins : BeginsName text)
    (alone : firstName text = spelled "async" → ¬ BeginsName (afterName text)) :
    behindAsync (mark ++ text) = text := by
  cases isMark with
  | absent => exact behindWord_eq_self alone
  | present isGap =>
    rw [List.append_assoc]
    exact behindWord_gap (by decide) isGap begins

/-- A mark is absent, or its word is the first name. -/
theorem IsAsyncMark.eq_nil_or_firstName (isMark : IsAsyncMark mark) :
    mark = [] ∨ firstName (mark ++ text) = spelled "async" := by
  cases isMark with
  | absent => exact .inl rfl
  | present isGap =>
    have word : IsName (spelled "async") := by decide
    rw [List.append_assoc]
    exact .inr (word.firstName_eq isGap.not_beginsName)

theorem beginsName_of_function (isFunction : spelled "function" <+: firstName text) :
    BeginsName text :=
  beginsName_iff.mpr fun empty => absurd (empty ▸ isFunction) (by decide)

/-- A name that begins with `function` is no further `async`. -/
theorem IsAsyncMark.behindAsync_function (isMark : IsAsyncMark mark)
    (isFunction : spelled "function" <+: firstName text) : behindAsync (mark ++ text) = text :=
  isMark.behindAsync_append (beginsName_of_function isFunction)
    fun isAsync => absurd (isAsync ▸ isFunction) (by decide)

/-- An arrow function is found behind `async`, unless an argument list follows the word, which then
stays the first name. -/
theorem IsAsyncMark.behindAsync_arrow (isMark : IsAsyncMark mark) (arrow : BeginsArrow text) :
    behindAsync (mark ++ text) = text ∨
      firstName (behindAsync (mark ++ text)) = spelled "async" := by
  by_cases begins : BeginsName text
  · exact .inl (isMark.behindAsync_append begins fun _ => arrow.not_beginsName_afterName)
  · cases isMark with
    | absent => exact .inl (behindWord_eq_self fun _ => arrow.not_beginsName_afterName)
    | @present gap isGap =>
      have word : IsName (spelled "async") := by decide
      have after : afterName (spelled "async" ++ (gap ++ text)) = text :=
        afterName_gap word isGap arrow.isTrimmed
      rw [List.append_assoc, behindAsync, behindWord_eq_self fun _ => by rwa [after]]
      exact .inr (word.firstName_eq isGap.not_beginsName)

theorem IsExportMark.behindExport_append (isMark : IsExportMark mark) (begins : BeginsName text)
    (alone : firstName text ∈ [spelled "export", spelled "default"] →
      ¬ BeginsName (afterName text)) :
    behindExport (mark ++ text) = text := by
  have noExport : behindWord (spelled "export") text = text :=
    behindWord_eq_self fun first => alone (by simp [first])
  have noDefault : behindWord (spelled "default") text = text :=
    behindWord_eq_self fun first => alone (by simp [first])
  cases isMark with
  | absent => rwa [behindExport, List.nil_append, noExport]
  | plain isGap => rwa [behindExport, List.append_assoc, behindWord_gap (by decide) isGap begins]
  | default isGap isBehind =>
    have word : IsName (spelled "default") := by decide
    rw [behindExport, List.append_assoc, List.append_assoc, List.append_assoc,
      behindWord_gap (by decide) isGap word.beginsName, behindWord_gap word isBehind begins]

theorem IsAsyncMark.isTrimmed_append (isMark : IsAsyncMark mark) (trimmed : IsTrimmed text) :
    IsTrimmed (mark ++ text) := by
  rcases isMark.eq_nil_or_beginsOpening with rfl | begins
  · exact trimmed
  · exact begins.beginsName.isTrimmed

/-! ## Bindings are read in one way -/

/-- What is bound if the text is a binding: the text behind two names, an equals sign and blank
space. -/
def boundText (text : List CodePoint) : List CodePoint :=
  trimStart isBlank (afterName (afterName text)).tail

theorem IsBindingFront.firstName_mem (isFront : IsBindingFront front) :
    firstName (front ++ text) ∈ bindingWords := by
  obtain ⟨word, isBinding, gap, _, _, _, isGap, -, -, -, rfl⟩ := isFront
  have isName : ∀ word ∈ bindingWords, IsName word := by decide
  rwa [List.append_assoc, List.append_assoc,
    (isName word isBinding).firstName_eq isGap.not_beginsName]

/-- Behind the word of a binding stand the name and the equals sign. -/
theorem IsBindingFront.afterName_eq (isFront : IsBindingFront front) :
    ∃ name before after, IsName name ∧ allBlank before = true ∧ allBlank after = true ∧
      afterName (front ++ text) = name ++ (before ++ (.char '=' :: (after ++ text))) := by
  obtain ⟨word, isBinding, gap, name, before, after, isGap, isName, blankBefore, blankAfter, rfl⟩ :=
    isFront
  have isWord : ∀ word ∈ bindingWords, IsName word := by decide
  refine ⟨name, before, after, isName, blankBefore, blankAfter, ?_⟩
  simp only [List.append_assoc, List.cons_append]
  exact afterName_gap (isWord word isBinding) isGap isName.beginsName.isTrimmed

theorem IsBindingFront.beginsName_afterName (isFront : IsBindingFront front) :
    BeginsName (afterName (front ++ text)) := by
  obtain ⟨_, _, _, isName, -, -, same⟩ := isFront.afterName_eq
  exact same ▸ isName.beginsName

theorem IsBindingFront.behindAsync_append (isFront : IsBindingFront front) :
    behindAsync (front ++ text) = front ++ text := by
  refine behindWord_eq_self fun first => ?_
  have isBinding : firstName (front ++ text) ∈ bindingWords := isFront.firstName_mem
  rw [first] at isBinding
  exact absurd isBinding (by decide)

theorem IsBindingFront.boundText_append (isFront : IsBindingFront front)
    (trimmed : IsTrimmed text) :
    boundText (front ++ text) = text := by
  obtain ⟨name, before, after, isName, blankBefore, blankAfter, same⟩ := isFront.afterName_eq
  have equals : ¬ BeginsName (.char '=' :: (after ++ text)) := not_beginsName_cons (by decide)
  rw [boundText, same, afterName_blank isName blankBefore equals (isTrimmed_cons (by decide)),
    List.tail_cons, trimStart_append blankAfter trimmed]

end CodeComplexity.Source
