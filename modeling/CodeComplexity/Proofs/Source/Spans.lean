import CodeComplexity.Source.Locator

/-!
# Functions and their lines

A text has a function on each line that starts one and whose braces close again.  `locateAll` lists
the spans of just these functions, and the search for the function around a place takes the first of
them that it meets on its way up, if no line ends the search before.
-/

namespace CodeComplexity.Source

open Text

variable {lines rest : List Line} {line : Line} {first number below target start : Nat}
  {span : FunctionSpan} {text : LooseText}

/-- A function starts on a line, and its body closes so many lines below. -/
structure FunctionAt (lines : List Line) (number below : Nat) : Prop where
  starts : ∃ line, lines[number]? = some line ∧ isFunctionStart line = true
  closes : Body.ofLines (lines.drop number) = .closes below

theorem functionAt_cons_zero :
    FunctionAt (line :: rest) 0 below ↔
      isFunctionStart line = true ∧ Body.ofLines (line :: rest) = .closes below := by
  constructor
  · rintro ⟨⟨found, listed, isStart⟩, closes⟩
    obtain rfl := Option.some.inj listed
    exact ⟨isStart, closes⟩
  · rintro ⟨isStart, closes⟩
    exact ⟨⟨line, rfl, isStart⟩, closes⟩

theorem functionAt_cons_succ :
    FunctionAt (line :: rest) (number + 1) below ↔ FunctionAt rest number below :=
  ⟨fun there => ⟨there.starts, there.closes⟩, fun there => ⟨there.starts, there.closes⟩⟩

/-! ## All functions -/

theorem mem_spansFrom_cons :
    span ∈ spansFrom first (line :: rest) ↔
      (∃ below, FunctionAt (line :: rest) 0 below ∧ span = .ofLines first below (line :: rest)) ∨
        span ∈ spansFrom (first + 1) rest := by
  simp only [functionAt_cons_zero]
  rw [spansFrom]
  split
  · next isStart =>
    cases body : Body.ofLines (line :: rest) with
    | closes below => simp [isStart]
    | blockless => simp
    | malformed => simp
  · next noStart => simp [noStart]

/-- The spans of lines are those of the functions that start on one of them. -/
theorem mem_spansFrom_iff :
    span ∈ spansFrom first lines ↔
      ∃ number below, FunctionAt lines number below ∧
        span = .ofLines (first + number) below (lines.drop number) := by
  induction lines generalizing first with
  | nil =>
      constructor
      · intro listed
        exact absurd listed List.not_mem_nil
      · rintro ⟨number, below, ⟨⟨_, absent, -⟩, -⟩, -⟩
        simp at absent
  | cons line rest ih =>
      rw [mem_spansFrom_cons, ih]
      constructor
      · rintro (⟨below, there, rfl⟩ | ⟨number, below, there, rfl⟩)
        · exact ⟨0, below, there, rfl⟩
        · refine ⟨number + 1, below, functionAt_cons_succ.mpr there, ?_⟩
          rw [List.drop_succ_cons, Nat.add_right_comm, Nat.add_assoc]
      · rintro ⟨number, below, there, rfl⟩
        cases number with
        | zero => exact .inl ⟨below, there, rfl⟩
        | succ number =>
            refine .inr ⟨number, below, functionAt_cons_succ.mp there, ?_⟩
            rw [List.drop_succ_cons, Nat.add_right_comm, Nat.add_assoc]

theorem mem_locateAll_iff :
    span ∈ locateAll text ↔
      ∃ number below, FunctionAt (splitLines text.points) number below ∧
        span = .ofLines number below ((splitLines text.points).drop number) := by
  rw [locateAll, mem_spansFrom_iff]
  simp only [Nat.zero_add]

theorem eq_of_startLine_eq {other : FunctionSpan} (listed : span ∈ locateAll text)
    (otherListed : other ∈ locateAll text) (same : span.startLine = other.startLine) :
    span = other := by
  obtain ⟨number, below, there, rfl⟩ := mem_locateAll_iff.mp listed
  obtain ⟨otherNumber, otherBelow, otherThere, rfl⟩ := mem_locateAll_iff.mp otherListed
  obtain rfl : number = otherNumber := same
  rw [Body.closes.inj (there.closes.symm.trans otherThere.closes)]

/-! ## The function around a place -/

theorem drop_of_listed (listed : lines[number]? = some line) :
    lines.drop number = line :: lines.drop (number + 1) := by
  obtain ⟨inside, rfl⟩ := List.getElem?_eq_some_iff.mp listed
  exact List.drop_eq_getElem_cons inside

theorem functionAt_of_listed (listed : lines[number]? = some line) :
    FunctionAt lines number below ↔
      isFunctionStart line = true ∧ Body.ofLines (lines.drop number) = .closes below := by
  constructor
  · rintro ⟨⟨other, there, isStart⟩, closes⟩
    obtain rfl := Option.some.inj (listed.symm.trans there)
    exact ⟨isStart, closes⟩
  · rintro ⟨isStart, closes⟩
    exact ⟨⟨line, listed, isStart⟩, closes⟩

/-- The search ends with a function where one starts that reaches down to the place, on a line that
is not blank unless it is the line of the place. -/
theorem lookAt_eq_found_iff (listed : lines[number]? = some line) :
    lookAt lines target number = .found span ↔
      (number < target → allBlank line = false) ∧
      ∃ below, FunctionAt lines number below ∧ target ≤ number + below ∧
        span = .ofLines number below (lines.drop number) := by
  simp only [lookAt, functionAt_of_listed listed, drop_of_listed listed]
  split
  · next blank => simp_all
  · next visible =>
    have visible : number < target → allBlank line = false := by simpa using visible
    split
    · next isStart =>
      cases body : Body.ofLines (line :: lines.drop (number + 1)) with
      | closes below =>
        dsimp only
        split
        · next reaches =>
          constructor
          · intro found
            exact ⟨visible, below, ⟨isStart, rfl⟩, reaches, (Look.found.inj found).symm⟩
          · rintro ⟨-, _, ⟨-, same⟩, -, rfl⟩
            rw [Body.closes.inj same]
        · next short =>
          constructor
          · intro found
            cases found
          · rintro ⟨-, _, ⟨-, same⟩, reaches, -⟩
            rw [Body.closes.inj same] at short
            exact absurd reaches short
      | blockless => simp
      | malformed => simp
    · next noStart => simp [noStart]

/-- The search goes on above a line that is not blank, unless it is the line of the place, and that
starts no function, or one without a body, or one that closes above the place. -/
theorem lookAt_eq_above_iff (listed : lines[number]? = some line) :
    lookAt lines target number = .above ↔
      (number < target → allBlank line = false) ∧
      (isFunctionStart line = true → Body.ofLines (lines.drop number) ≠ .malformed) ∧
      ∀ below, FunctionAt lines number below → number + below < target := by
  simp only [lookAt, functionAt_of_listed listed, drop_of_listed listed]
  split
  · next blank => simp_all
  · next visible =>
    have visible : number < target → allBlank line = false := by simpa using visible
    split
    · next isStart =>
      cases body : Body.ofLines (line :: lines.drop (number + 1)) with
      | closes below => simpa [isStart] using fun _ => visible
      | blockless => simpa using visible
      | malformed => simp [isStart]
    · next noStart => simpa [noStart] using visible

/-- The search does not go on above a line on which a function starts that reaches down to the
place. -/
theorem lookAt_ne_above (there : FunctionAt lines number below)
    (reaches : target ≤ number + below) :
    lookAt lines target number ≠ .above := by
  obtain ⟨line, listed, -⟩ := there.starts
  intro goesOn
  have closed := ((lookAt_eq_above_iff listed).mp goesOn).2.2 below there
  omega

/-- The search finds a function at the first line, going up, that decides anything. -/
theorem searchUp_eq_some_iff :
    searchUp lines target start = some span ↔
      ∃ number, number ≤ start ∧ lookAt lines target number = .found span ∧
        ∀ between, number < between → between ≤ start → lookAt lines target between = .above := by
  induction start with
  | zero =>
      rw [searchUp]
      constructor
      · intro found
        refine ⟨0, Nat.le_refl 0, ?_, by omega⟩
        split at found
        · next other looked => rw [looked, Option.some.inj found]
        · cases found
        · cases found
      · rintro ⟨number, low, looked, -⟩
        obtain rfl := Nat.le_zero.mp low
        rw [looked]
  | succ start ih =>
      rw [searchUp]
      constructor
      · intro found
        split at found
        · next other looked =>
          exact ⟨start + 1, Nat.le_refl _, by rw [looked, Option.some.inj found], by omega⟩
        · cases found
        · next looked =>
          obtain ⟨number, low, there, above⟩ := ih.mp found
          refine ⟨number, Nat.le_succ_of_le low, there, ?_⟩
          intro between high most
          rcases Nat.le_succ_iff.mp most with lower | rfl
          · exact above between high lower
          · exact looked
      · rintro ⟨number, low, there, above⟩
        rcases Nat.le_succ_iff.mp low with lower | rfl
        · rw [above (start + 1) (Nat.lt_succ_of_le lower) (Nat.le_refl _)]
          exact ih.mpr ⟨number, lower, there,
            fun between high most => above between high (Nat.le_succ_of_le most)⟩
        · rw [there]

/-- The function around a place is one of the text that reaches down to the place, and it starts
where the search first meets one. -/
theorem functionAt_of_locateContaining {position : Position}
    (located : locateContaining text position = some span) :
    ∃ number below, FunctionAt (splitLines text.points) number below ∧
      span = .ofLines number below ((splitLines text.points).drop number) ∧
      number ≤ position.line ∧ position.line ≤ number + below ∧
      ∀ between, number < between → between ≤ position.line →
        lookAt (splitLines text.points) position.line between = .above := by
  rw [locateContaining] at located
  split at located
  · obtain ⟨number, low, found, above⟩ := searchUp_eq_some_iff.mp located
    have listed : (splitLines text.points)[number]? = some _ :=
      List.getElem?_eq_getElem (by omega)
    obtain ⟨-, below, there, reaches, same⟩ := (lookAt_eq_found_iff listed).mp found
    exact ⟨number, below, there, same, low, reaches, above⟩
  · cases located

theorem mem_locateAll_of_locateContaining {position : Position}
    (located : locateContaining text position = some span) : span ∈ locateAll text := by
  obtain ⟨number, below, there, same, -⟩ := functionAt_of_locateContaining located
  exact mem_locateAll_iff.mpr ⟨number, below, there, same⟩

end CodeComplexity.Source
