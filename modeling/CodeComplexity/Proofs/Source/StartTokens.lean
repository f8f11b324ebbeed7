import CodeComplexity.Proofs.Source.FirstNames

/-!
# Start tokens

A line is meant to start a function if whole tokens at its front say so: the word `function` and a
name, a binding of a name to `function` or to an arrow function, or the name of a method, which is
no control word.  `StartToken` lists these, with names read as far as they go.  The pattern misses
the end of a word in three places: `function` may be the front part of a longer name, a dollar
counts as its end in a binding, and `async` hides a control word.  `MissedEnd` lists these.  A line
starts a function if and only if it begins in one of these ways, and none begins in two ways of
different kinds.
-/

namespace CodeComplexity.Source

open Text

variable {line : Line} {text mark more : List CodePoint}

/-! ## The tokens and the missed ends -/

/-- Whole tokens at the front of the text start a function. -/
inductive StartToken : List CodePoint → Prop where
  /-- `function name` or `function* name`, with or without `async`. -/
  | declaration {mark text : List CodePoint} :
      IsAsyncMark mark → firstName text = spelled "function" →
      NamesFunction (behindName text) → StartToken (mark ++ text)
  /-- A binding to `function`, with or without `async`. -/
  | functionBinding {front mark text : List CodePoint} : IsBindingFront front → IsAsyncMark mark →
      firstName text = spelled "function" → StartToken (front ++ (mark ++ text))
  /-- A binding to an arrow function, with or without `async`. -/
  | arrowBinding {front mark text : List CodePoint} : IsBindingFront front → IsAsyncMark mark →
      BeginsArrow text → StartToken (front ++ (mark ++ text))
  /-- A method, with or without `async`.  Names such as `if$` are left out as well: a word ends at
  their dollar. -/
  | method {mark text : List CodePoint} : IsAsyncMark mark → firstName text ≠ [] →
      firstName text ∉ controlWords → OpensBlock (behindName text) →
      ¬ BeginsControl (mark ++ text) → StartToken (mark ++ text)

/-- The text reads as the start of a function only because the end of a word is missed. -/
inductive MissedEnd : List CodePoint → Prop where
  /-- A name that merely begins with `function` and is not that of a method, with or without
  `async`. -/
  | longerName {mark text more : List CodePoint} : IsAsyncMark mark → more ≠ [] →
      firstName text = spelled "function" ++ more → ¬ OpensBlock (behindName text) →
      MissedEnd (mark ++ text)
  /-- A binding to a name that begins with `function` and a dollar, and is no parameter of an arrow
  function. -/
  | dollar {front mark text more : List CodePoint} : IsBindingFront front → IsAsyncMark mark →
      firstName text = spelled "function" ++ .char '$' :: more → ¬ BeginsArrow text →
      MissedEnd (front ++ (mark ++ text))
  /-- A control word behind `async`, with an argument list and an opening brace. -/
  | controlWord {gap text : List CodePoint} : IsGap gap → firstName text ∈ controlWords →
      OpensBlock (behindName text) → MissedEnd (spelled "async" ++ gap ++ text)

/-! ## What reads as a function -/

/-- A name that is longer than `function` is none of some words if no word among them is. -/
theorem longerName_notMem {words : List (List CodePoint)} (some_char : more ≠ [])
    (shortest : ∀ word ∈ words, spelled "function" <+: word → word = spelled "function") :
    spelled "function" ++ more ∉ words := by
  intro listed
  have same := shortest _ listed (List.prefix_append _ more)
  exact some_char (List.append_right_eq_self.mp same)

theorem longerName_startToken (isMark : IsAsyncMark mark) (some_char : more ≠ [])
    (longer : firstName text = spelled "function" ++ more) (opens : OpensBlock (behindName text)) :
    StartToken (mark ++ text) := by
  have begins : BeginsOpening (mark ++ text) := by
    rcases isMark.eq_nil_or_beginsOpening with rfl | begins
    · exact ⟨spelled "function", by decide, more ++ behindName text, eq_append_behindName longer⟩
    · exact begins
  refine .method isMark ?_ ?_ opens begins.not_beginsControl
  · exact longer ▸ List.append_ne_nil_of_right_ne_nil _ some_char
  · exact longer ▸ longerName_notMem some_char (by decide)

theorem Declares.startToken_or_missedEnd (declares : Declares text) :
    StartToken text ∨ MissedEnd text := by
  obtain ⟨mark, _, isMark, ⟨star, name, rest, isStar, isName, rfl⟩, rfl⟩ := declares
  have isFunction : IsName (spelled "function") := by decide
  by_cases nothing : star = []
  · subst nothing
    have some_char : name ++ firstName rest ≠ [] := List.append_ne_nil_of_left_ne_nil isName.1 _
    have longer : firstName (spelled "function" ++ ([] ++ (name ++ rest))) =
        spelled "function" ++ (name ++ firstName rest) := by
      rw [List.nil_append, firstName_append isFunction.2, firstName_append isName.2]
    by_cases opens : OpensBlock (behindName (spelled "function" ++ ([] ++ (name ++ rest))))
    · exact .inl (longerName_startToken isMark some_char longer opens)
    · exact .inr (.longerName isMark some_char longer opens)
  · have ends : ¬ BeginsName (star ++ (name ++ rest)) := isStar.not_beginsName nothing
    refine .inl (.declaration isMark (isFunction.firstName_eq ends) ?_)
    rw [isFunction.behindName_eq ends]
    exact ⟨star, name, rest, isStar, isName, rfl⟩

theorem Binds.startToken_or_missedEnd (binds : Binds text) : StartToken text ∨ MissedEnd text := by
  obtain ⟨front, mark, body, isFront, isMark, rfl, bound⟩ := binds
  have isFunction : IsName (spelled "function") := by decide
  by_cases arrow : BeginsArrow body
  · exact .inl (.arrowBinding isFront isMark arrow)
  · obtain ⟨behind, ends, rfl⟩ := bound.resolve_right arrow
    by_cases goesOn : BeginsName behind
    · obtain ⟨rest, rfl⟩ := ends.eq_dollar_cons goesOn
      have dollarFirst : firstName (.char '$' :: rest) = .char '$' :: firstName rest :=
        List.takeWhile_cons_of_pos (by decide)
      exact .inr (.dollar isFront isMark (dollarFirst ▸ firstName_append isFunction.2) arrow)
    · exact .inl (.functionBinding isFront isMark (isFunction.firstName_eq goesOn))

theorem OpensMethod.startToken_or_missedEnd (opens : OpensMethod text) :
    StartToken text ∨ MissedEnd text := by
  obtain ⟨other, mark, name, behind, isMark, isName, opens, rfl⟩ := opens
  have first : firstName (name ++ behind) = name := isName.firstName_eq opens.not_beginsName
  have last : behindName (name ++ behind) = behind := isName.behindName_eq opens.not_beginsName
  by_cases control : name ∈ controlWords
  · cases isMark with
    | absent =>
      -- The look ahead has refused the name already.
      exact absurd ⟨name, control, behind, wordEnds_of_not_beginsName opens.not_beginsName, rfl⟩
        other
    | present isGap => exact .inr (.controlWord isGap (by rwa [first]) (by rwa [last]))
  · refine .inl (.method isMark ?_ (by rwa [first]) (by rwa [last]) other)
    rw [first]
    exact isName.1

theorem StartToken.readsAsFunction (token : StartToken text) : ReadsAsFunction text := by
  cases token with
  | @declaration mark text isMark isFunction names =>
    refine .inl ⟨mark, behindName text, isMark, names, ?_⟩
    rw [← isFunction, firstName_append_behindName]
  | @functionBinding front mark text isFront isMark isFunction =>
    refine .inr (.inl ⟨front, mark, text, isFront, isMark, rfl, .inl ⟨behindName text, ?_, ?_⟩⟩)
    · exact wordEnds_of_not_beginsName (not_beginsName_behindName text)
    · rw [← isFunction, firstName_append_behindName]
  | @arrowBinding front mark text isFront isMark arrow =>
    exact .inr (.inl ⟨front, mark, text, isFront, isMark, rfl, .inr arrow⟩)
  | @method mark text isMark some_char _ opens other =>
    refine .inr (.inr ⟨other, mark, firstName text, behindName text, isMark, ?_, opens, ?_⟩)
    · exact isName_firstName (beginsName_iff.mpr some_char)
    · rw [firstName_append_behindName]

theorem beginsName_of_mem_controlWords (isControl : firstName text ∈ controlWords) :
    BeginsName text :=
  beginsName_iff.mpr fun empty => absurd (empty ▸ isControl) (by decide)

theorem MissedEnd.readsAsFunction (missed : MissedEnd text) : ReadsAsFunction text := by
  cases missed with
  | @longerName mark text more isMark some_char longer _ =>
    have isMore : more.all isNameChar = true := by
      have all : (firstName text).all isNameChar = true := List.all_takeWhile
      rw [longer, List.all_append, Bool.and_eq_true] at all
      exact all.2
    have names : NamesFunction (more ++ behindName text) :=
      ⟨[], more, behindName text, .absent rfl, ⟨some_char, isMore⟩, rfl⟩
    exact .inl ⟨mark, _, isMark, names, congrArg (mark ++ ·) (eq_append_behindName longer)⟩
  | @dollar front mark text more isFront isMark longer _ =>
    have ends : WordEnds (.char '$' :: more ++ behindName text) := wordEnds_cons (by decide)
    exact .inr (.inl ⟨front, mark, text, isFront, isMark, rfl,
      .inl ⟨_, ends, eq_append_behindName longer⟩⟩)
  | @controlWord gap text isGap isControl opens =>
    have begins : BeginsOpening (spelled "async" ++ gap ++ text) :=
      ⟨spelled "async", by decide, _, List.append_assoc ..⟩
    refine .inr (.inr ⟨begins.not_beginsControl, _, firstName text, behindName text, .present isGap,
      isName_firstName (beginsName_of_mem_controlWords isControl), opens, ?_⟩)
    rw [firstName_append_behindName]

theorem readsAsFunction_iff : ReadsAsFunction text ↔ StartToken text ∨ MissedEnd text := by
  constructor
  · rintro (declares | binds | opens)
    · exact declares.startToken_or_missedEnd
    · exact binds.startToken_or_missedEnd
    · exact opens.startToken_or_missedEnd
  · rintro (token | missed)
    · exact token.readsAsFunction
    · exact missed.readsAsFunction

/-! ## No end is missed at a token -/

/-- What a token says of the names at its front, behind `async` and behind the front of a
binding. -/
theorem StartToken.names (token : StartToken text) :
    firstName (behindAsync text) = spelled "function" ∨
    (firstName (behindAsync text) ∉ controlWords ∧ OpensBlock (behindName (behindAsync text))) ∨
    (firstName (behindAsync text) ∈ bindingWords ∧
      (firstName (behindAsync (boundText text)) ∈ [spelled "function", spelled "async"] ∨
        BeginsArrow (behindAsync (boundText text)))) := by
  cases token with
  | declaration isMark isFunction _ =>
    exact .inl (by rw [isMark.behindAsync_function (isFunction ▸ List.prefix_rfl), isFunction])
  | @functionBinding front mark text isFront isMark isFunction =>
    have begins : BeginsName text := beginsName_of_function (isFunction ▸ List.prefix_rfl)
    rw [isFront.behindAsync_append,
      isFront.boundText_append (isMark.isTrimmed_append begins.isTrimmed),
      isMark.behindAsync_function (isFunction ▸ List.prefix_rfl), isFunction]
    exact .inr (.inr ⟨isFront.firstName_mem, .inl (by decide)⟩)
  | arrowBinding isFront isMark arrow =>
    rw [isFront.behindAsync_append,
      isFront.boundText_append (isMark.isTrimmed_append arrow.isTrimmed)]
    refine .inr (.inr ⟨isFront.firstName_mem, ?_⟩)
    rcases isMark.behindAsync_arrow arrow with same | isAsync
    · exact .inr (by rwa [same])
    · exact .inl (by rw [isAsync]; decide)
  | method isMark some_char other opens _ =>
    rw [isMark.behindAsync_append (beginsName_iff.mpr some_char) fun _ =>
      opens.not_beginsName_afterName]
    exact .inr (.inl ⟨other, opens⟩)

theorem MissedEnd.not_startToken (missed : MissedEnd text) : ¬ StartToken text := by
  intro token
  have names := token.names
  cases missed with
  | longerName isMark some_char longer unopened =>
    rw [isMark.behindAsync_function (longer ▸ List.prefix_append ..), longer] at names
    rcases names with isFunction | ⟨-, opens⟩ | ⟨isBinding, -⟩
    · exact some_char (List.append_right_eq_self.mp isFunction)
    · exact unopened opens
    · exact longerName_notMem some_char (by decide) isBinding
  | @dollar front mark text more isFront isMark longer noArrow =>
    have isFunction : spelled "function" <+: firstName text := longer ▸ List.prefix_append ..
    have begins : BeginsName text := beginsName_of_function isFunction
    have isBinding : firstName (front ++ (mark ++ text)) ∈ bindingWords := isFront.firstName_mem
    rw [isFront.behindAsync_append,
      isFront.boundText_append (isMark.isTrimmed_append begins.isTrimmed),
      isMark.behindAsync_function isFunction, longer] at names
    rcases names with declares | ⟨-, opens⟩ | ⟨-, isBound | arrow⟩
    · exact absurd (declares ▸ isBinding) (by decide)
    · exact opens.not_beginsName_afterName isFront.beginsName_afterName
    · exact longerName_notMem (List.cons_ne_nil _ _) (by decide) isBound
    · exact noArrow arrow
  | @controlWord gap text isGap isControl opens =>
    have isMark : IsAsyncMark (spelled "async" ++ gap) := .present isGap
    rw [isMark.behindAsync_append (beginsName_of_mem_controlWords isControl)
      fun _ => opens.not_beginsName_afterName] at names
    rcases names with isFunction | ⟨other, -⟩ | ⟨isBinding, -⟩
    · exact absurd (isFunction ▸ isControl) (by decide)
    · exact other isControl
    · have apart : ∀ word ∈ controlWords, word ∉ bindingWords := by decide
      exact apart _ isControl isBinding

/-! ## Lines -/

/-- What reads as a function does not look like `export` or `default` in front of a function. -/
theorem ReadsAsFunction.not_beginsName_afterName (reads : ReadsAsFunction text)
    (isExport : firstName text ∈ [spelled "export", spelled "default"]) :
    ¬ BeginsName (afterName text) := by
  rcases reads with ⟨mark, behind, isMark, -, rfl⟩ | ⟨front, mark, body, isFront, -, rfl, -⟩ |
    ⟨-, mark, name, behind, isMark, isName, opens, rfl⟩
  · have isFunction : IsName (spelled "function") := by decide
    have apart :
        ∀ word ∈ [spelled "export", spelled "default"], ¬ spelled "function" <+: word := by decide
    rcases isMark.eq_nil_or_firstName with rfl | isAsync
    · rw [List.nil_append, firstName_append isFunction.2] at isExport
      exact absurd (List.prefix_append ..) (apart _ isExport)
    · exact absurd (isAsync ▸ isExport) (by decide)
  · have apart : ∀ word ∈ bindingWords, word ∉ [spelled "export", spelled "default"] := by decide
    exact absurd isExport (apart _ isFront.firstName_mem)
  · rcases isMark.eq_nil_or_firstName with rfl | isAsync
    · refine OpensBlock.not_beginsName_afterName ?_
      rwa [List.nil_append, isName.behindName_eq opens.not_beginsName]
    · exact absurd (isAsync ▸ isExport) (by decide)

/-- The export mark of a line that starts a function is read in one way. -/
theorem ReadsAsFunction.behindExport_append (reads : ReadsAsFunction text)
    (isMark : IsExportMark mark) :
    behindExport (mark ++ text) = text :=
  isMark.behindExport_append reads.beginsName reads.not_beginsName_afterName

/-- Whole tokens start a function behind the blank space and the export mark of the line. -/
def StartsByToken (line : Line) : Prop :=
  ∃ mark text, trimStart isBlank line = mark ++ text ∧ IsExportMark mark ∧ StartToken text

/-- Behind the blank space and the export mark of the line a function is read only because the end
of a word is missed. -/
def StartsByMissedEnd (line : Line) : Prop :=
  ∃ mark text, trimStart isBlank line = mark ++ text ∧ IsExportMark mark ∧ MissedEnd text

theorem isFunctionStart_iff_tokens :
    isFunctionStart line = true ↔ StartsByToken line ∨ StartsByMissedEnd line := by
  simp only [isFunctionStart_iff, readsAsFunction_iff, and_or_left, exists_or, StartsByToken,
    StartsByMissedEnd]

theorem StartsByMissedEnd.not_startsByToken (missed : StartsByMissedEnd line) :
    ¬ StartsByToken line := by
  rintro ⟨mark, text, trimmed, isMark, token⟩
  obtain ⟨otherMark, other, otherTrimmed, isOtherMark, missed⟩ := missed
  have same : other = text := by
    rw [← missed.readsAsFunction.behindExport_append isOtherMark, ← otherTrimmed, trimmed,
      token.readsAsFunction.behindExport_append isMark]
  exact missed.not_startToken (same ▸ token)

/-- A line starts a function if and only if whole tokens say so or the end of a word is missed, and
never both.  A name that merely begins with `function` always starts one, by a token only as the
name of a method. -/
theorem starts_by_token_or_missed_end (line : Line) :
    (isFunctionStart line = true ↔ StartsByToken line ∨ StartsByMissedEnd line) ∧
    ¬ (StartsByToken line ∧ StartsByMissedEnd line) ∧
    ∀ more, more ≠ [] → firstName (trimStart isBlank line) = spelled "function" ++ more →
      isFunctionStart line = true ∧
        (StartsByToken line ↔ OpensBlock (behindName (trimStart isBlank line))) := by
  refine ⟨isFunctionStart_iff_tokens, fun both => both.2.not_startsByToken both.1,
    fun more some_char longer => ?_⟩
  by_cases opens : OpensBlock (behindName (trimStart isBlank line))
  · have starts : StartsByToken line :=
      ⟨[], _, rfl, .absent, longerName_startToken .absent some_char longer opens⟩
    exact ⟨isFunctionStart_iff_tokens.mpr (.inl starts), iff_of_true starts opens⟩
  · have missed : StartsByMissedEnd line :=
      ⟨[], _, rfl, .absent, .longerName .absent some_char longer opens⟩
    exact ⟨isFunctionStart_iff_tokens.mpr (.inr missed),
      iff_of_false missed.not_startsByToken opens⟩

/-- An assignment to a name that begins with `function` starts a function, and no token of it
does. -/
theorem starts_by_token_or_missed_end_assignment :
    firstName (trimStart isBlank (spelled "functionality = 1;")) =
      spelled "function" ++ spelled "ality" ∧
      isFunctionStart (spelled "functionality = 1;") = true ∧
      ¬ StartsByToken (spelled "functionality = 1;") := by
  have longer : firstName (trimStart isBlank (spelled "functionality = 1;")) =
      spelled "function" ++ spelled "ality" := by
    decide +kernel
  have unopened : ¬ OpensBlock (behindName (trimStart isBlank (spelled "functionality = 1;"))) := by
    rintro ⟨_, _, _, _, -, -, -, same⟩
    have brace :
        CodePoint.char '{' ∈ behindName (trimStart isBlank (spelled "functionality = 1;")) := by
      rw [same]
      simp
    exact absurd brace (by decide +kernel)
  obtain ⟨starts, onlyOpened⟩ := (starts_by_token_or_missed_end _).2.2 _ (by decide) longer
  exact ⟨longer, starts, fun token => unopened (onlyOpened.mp token)⟩

end CodeComplexity.Source
