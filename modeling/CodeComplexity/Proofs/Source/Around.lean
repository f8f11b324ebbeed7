import CodeComplexity.Proofs.Source.Bodies

/-!
# The function around a place

The search upwards and the list of all functions tell the same story.  The search finds the
innermost of the listed functions around a place, and it finds none if a blank line or a function
that is never closed stands between the start of that function and the place.
-/

namespace CodeComplexity.Source

open Text

variable {text : LooseText} {found : FunctionSpan}

/-- A listed function is the innermost one around a line, and nothing hides it from that line. -/
structure InSight (text : LooseText) (target : Nat) (found : FunctionSpan) : Prop where
  listed : found ∈ locateAll text
  contains : found.startLine ≤ target ∧ target ≤ found.endLine
  /-- No other function around the line starts further down. -/
  innermost : ∀ other ∈ locateAll text, other.startLine ≤ target → target ≤ other.endLine →
    other.startLine ≤ found.startLine
  /-- No line from the function's start down to the one above the target is blank. -/
  no_blank : ∀ number line, found.startLine ≤ number → number < target →
    (splitLines text.points)[number]? = some line → allBlank line = false
  /-- No function that is never closed starts further down, at or above the target. -/
  no_unclosed : ∀ number line, found.startLine < number → number ≤ target →
    (splitLines text.points)[number]? = some line → isFunctionStart line = true →
    ¬ Unclosed ((splitLines text.points).drop number)

theorem inSight_of_located {position : Position}
    (located : locateContaining text position = some found) : InSight text position.line found := by
  rw [locateContaining] at located
  split at located
  · next within =>
    obtain ⟨number, low, looked, above⟩ := searchUp_eq_some_iff.mp located
    obtain ⟨line, isLine⟩ : ∃ line, (splitLines text.points)[number]? = some line :=
      ⟨_, List.getElem?_eq_getElem (by omega)⟩
    obtain ⟨notBlank, below, there, reaches, rfl⟩ := (lookAt_eq_found_iff isLine).mp looked
    refine ⟨mem_locateAll_iff.mpr ⟨number, below, there, rfl⟩, ⟨low, reaches⟩, ?_, ?_, ?_⟩
    · -- The search would have stopped at the start of a function further down.
      intro other listed begins around
      obtain ⟨start, height, nested, rfl⟩ := mem_locateAll_iff.mp listed
      refine Nat.le_of_not_lt fun further => ?_
      exact lookAt_ne_above nested around (above start further begins)
    · intro between other after most isBetween
      rcases Nat.eq_or_lt_of_le after with rfl | after
      · obtain rfl := Option.some.inj (isLine.symm.trans isBetween)
        exact notBlank most
      · exact ((lookAt_eq_above_iff isBetween).mp (above between after (Nat.le_of_lt most))).1 most
    · intro between other after most isBetween isStart unclosed
      have passed := ((lookAt_eq_above_iff isBetween).mp (above between after most)).2.1 isStart
      exact passed (Body.ofLines_eq_malformed_iff.mpr unclosed)
  · cases located

theorem InSight.located {position : Position} (inSight : InSight text position.line found) :
    locateContaining text position = some found := by
  obtain ⟨listed, ⟨low, reaches⟩, innermost, noBlank, noUnclosed⟩ := inSight
  obtain ⟨number, below, there, rfl⟩ := mem_locateAll_iff.mp listed
  have within : number + below < (splitLines text.points).length := there.lt_length
  have reaches : position.line ≤ number + below := reaches
  rw [locateContaining, if_pos (by omega)]
  refine searchUp_eq_some_iff.mpr ⟨number, low, ?_, fun between after most => ?_⟩
  · obtain ⟨line, isLine, -⟩ := there.starts
    refine (lookAt_eq_found_iff isLine).mpr ⟨fun above => ?_, below, there, reaches, rfl⟩
    exact noBlank number line (Nat.le_refl number) above isLine
  · obtain ⟨line, isLine⟩ : ∃ line, (splitLines text.points)[between]? = some line :=
      ⟨_, List.getElem?_eq_getElem (by omega)⟩
    refine (lookAt_eq_above_iff isLine).mpr ⟨fun above => ?_, fun isStart malformed => ?_, ?_⟩
    · exact noBlank between line (Nat.le_of_lt after) above isLine
    · exact noUnclosed between line after most isLine isStart
        (Body.ofLines_eq_malformed_iff.mp malformed)
    · intro height nested
      refine Nat.lt_of_not_le fun around => ?_
      have := innermost _ (mem_locateAll_iff.mpr ⟨between, height, nested, rfl⟩) most around
      exact absurd after (Nat.not_lt_of_le this)

/-- The search finds just the function in sight; below the text it finds nothing, and a function
that is never closed hides itself and all that start above it. -/
theorem search_finds_in_sight (text : LooseText) (position : Position) :
    (∀ found, locateContaining text position = some found ↔ InSight text position.line found) ∧
    ((splitLines text.points).length ≤ position.line → locateContaining text position = none) ∧
    ∀ number line, number ≤ position.line → (splitLines text.points)[number]? = some line →
      isFunctionStart line = true → Unclosed ((splitLines text.points).drop number) →
      ∀ found, locateContaining text position = some found → number < found.startLine := by
  refine ⟨fun found => ⟨inSight_of_located, InSight.located⟩, fun beyond => ?_, ?_⟩
  · rw [locateContaining, if_neg (Nat.not_lt_of_le beyond)]
  · intro number line low isLine isStart unclosed found located
    have inSight := inSight_of_located located
    refine Nat.lt_of_not_le fun starts => ?_
    rcases Nat.eq_or_lt_of_le starts with same | further
    · -- The function that is never closed is not among the listed ones.
      obtain ⟨_, below, there, rfl⟩ := mem_locateAll_iff.mp inSight.listed
      obtain rfl : _ = number := same
      exact unclosed.never below (Body.ofLines_eq_closes_iff.mp there.closes).1
    · exact inSight.no_unclosed number line further low isLine isStart unclosed

/-- A function that is never closed, and one inside it that is. -/
def halfClosed : LooseText :=
  "function f() \x7b\n  function g() \x7b\n  \x7d\n  a"

/-- From its last line only the inner function is in sight, and from the line below nothing is. -/
theorem search_finds_in_sight_half_closed :
    (∃ found, InSight halfClosed 2 found ∧ 0 < found.startLine) ∧
    ∀ found, ¬ InSight halfClosed 3 found := by
  obtain ⟨found, located⟩ : ∃ found, locateContaining halfClosed ⟨2, 0⟩ = some found :=
    Option.isSome_iff_exists.mp (by decide +kernel)
  have inSight := ((search_finds_in_sight halfClosed ⟨2, 0⟩).1 found).mp located
  have unclosed : Unclosed ((splitLines halfClosed.points).drop 0) :=
    Body.ofLines_eq_malformed_iff.mp (by decide +kernel)
  have below := (search_finds_in_sight halfClosed ⟨2, 0⟩).2.2 0 (spelled "function f() \x7b")
    (by decide) (by decide +kernel) (by decide +kernel) unclosed found located
  refine ⟨⟨found, inSight, below⟩, fun other inSight => ?_⟩
  have located := ((search_finds_in_sight halfClosed ⟨3, 0⟩).1 other).mpr inSight
  have nothing : locateContaining halfClosed ⟨3, 0⟩ = none := by decide +kernel
  rw [nothing] at located
  cases located

end CodeComplexity.Source
