import CodeComplexity.Proofs.Source.Fronts
import CodeComplexity.Proofs.Source.Spans

/-!
# Lines of control statements

A line that begins with the word of a control statement starts no function, however far it is
indented and whatever stands behind the word.  So neither a listed function nor one that the search
finds starts on such a line.
-/

namespace CodeComplexity.Source

open Text

variable {line : Line} {text : LooseText} {span : FunctionSpan}

/-- Behind its blank space the line begins with the word of a control statement. -/
def IsControlLine (line : Line) : Prop :=
  BeginsControl (trimStart isBlank line)

theorem not_isControlLine_of_isFunctionStart (starts : isFunctionStart line = true) :
    ¬ IsControlLine line := by
  obtain ⟨mark, text, trimmed, isMark, reads⟩ := isFunctionStart_iff.mp starts
  rw [IsControlLine, trimmed]
  rcases isMark.eq_nil_or_beginsOpening with rfl | begins
  · exact reads.not_beginsControl
  · exact begins.not_beginsControl

/-- A listed function starts on a line of its text that starts a function. -/
theorem startLine_starts (listed : span ∈ locateAll text) :
    ∃ line, (splitLines text.points)[span.startLine]? = some line ∧
      isFunctionStart line = true := by
  obtain ⟨number, below, there, rfl⟩ := mem_locateAll_iff.mp listed
  exact there.starts

/-- A line of a control statement starts no function, and no function of any text, listed or found,
starts on such a line. -/
theorem control_lines_start_nothing (control : IsControlLine line) :
    isFunctionStart line = false ∧
    ∀ text span, (span ∈ locateAll text ∨ ∃ position, locateContaining text position = some span) →
      (splitLines text.points)[span.startLine]? ≠ some line := by
  have unstarted : isFunctionStart line ≠ true :=
    fun starts => not_isControlLine_of_isFunctionStart starts control
  refine ⟨Bool.eq_false_iff.mpr unstarted, fun text span located isLine => ?_⟩
  have listed : span ∈ locateAll text := by
    rcases located with listed | ⟨position, located⟩
    · exact listed
    · exact mem_locateAll_of_locateContaining located
  obtain ⟨other, isOther, starts⟩ := startLine_starts listed
  obtain rfl : line = other := Option.some.inj (isLine.symm.trans isOther)
  exact unstarted starts

/-- A loop behind an ideographic space, inside a function. -/
def indentedLoop : LooseText :=
  "function f(xs) \x7b\n\u3000for (const x of xs) \x7b\n  \x7d\n\x7d"

/-- The loop starts nothing, and the function around it starts on another line. -/
theorem control_lines_start_nothing_indented :
    ∃ loop, (splitLines indentedLoop.points)[1]? = some loop ∧ IsControlLine loop ∧
      isFunctionStart loop = false ∧
      ∃ span, locateContaining indentedLoop ⟨1, 0⟩ = some span ∧ span.startLine ≠ 1 := by
  have isLoop : (splitLines indentedLoop.points)[1]? =
      some (spelled "\u3000for (const x of xs) \x7b") := by
    decide +kernel
  have control : IsControlLine (spelled "\u3000for (const x of xs) \x7b") :=
    ⟨spelled "for", by decide, .char ' ' :: spelled "(const x of xs) \x7b",
      wordEnds_cons (by decide), by decide +kernel⟩
  obtain ⟨span, located⟩ : ∃ span, locateContaining indentedLoop ⟨1, 0⟩ = some span :=
    Option.isSome_iff_exists.mp (by decide +kernel)
  obtain ⟨unstarted, elsewhere⟩ := control_lines_start_nothing control
  refine ⟨_, isLoop, control, unstarted, span, located, fun same => ?_⟩
  exact elsewhere indentedLoop span (.inr ⟨_, located⟩) (same ▸ isLoop)

end CodeComplexity.Source
