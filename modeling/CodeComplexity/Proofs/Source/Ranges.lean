import CodeComplexity.Proofs.Source.Balance
import CodeComplexity.Source.Selection

/-!
# The ranges of functions

The range of a function goes from the start of its first line to the end of its last one, where the
end is read off the function's own text.  In the document that the function was found in, this range
selects just that text, which is never blank.
-/

namespace CodeComplexity.Source

open Text

variable {lines : List Line} {number below : Nat} {text : LooseText} {span : FunctionSpan}

theorem FunctionAt.take_drop (there : FunctionAt lines number below) :
    ∃ last, lines[number + below]? = some last ∧
      (lines.drop number).take (below + 1) = (lines.drop number).take below ++ [last] := by
  refine ⟨_, List.getElem?_eq_getElem there.lt_length, ?_⟩
  rw [List.take_add_one, List.getElem?_drop, List.getElem?_eq_getElem there.lt_length,
    Option.toList_some]

/-- The last line of a function's text is the one that closes the function. -/
theorem FunctionAt.lastLineLength (there : FunctionAt lines number below)
    (noFeed : ∀ line ∈ lines, .char '\n' ∉ line) {last : Line}
    (listed : lines[number + below]? = some last) :
    (FunctionSpan.ofLines number below (lines.drop number)).lastLineLength = last.length := by
  obtain ⟨final, isFinal, whole⟩ := there.take_drop
  obtain rfl := Option.some.inj (listed.symm.trans isFinal)
  have pieces : breakLines (FunctionSpan.ofLines number below (lines.drop number)).text.points =
      (lines.drop number).take below ++ [last] := by
    rw [FunctionSpan.ofLines, whole]
    refine breakLines_joinLines (by simp) fun line among => noFeed line ?_
    rw [← whole] at among
    exact List.mem_of_mem_drop (List.mem_of_mem_take among)
  rw [FunctionSpan.lastLineLength, List.getLast_congr _ (by simp) pieces, List.getLast_concat]

/-- The lines from one down to another one are selected as they are. -/
theorem selectLines_of_lines {last : Line} (listed : lines[number + below]? = some last)
    (ordered : ¬ Position.Before ⟨number + below, last.length⟩ ⟨number, 0⟩) :
    selectLines lines ⟨⟨number, 0⟩, ⟨number + below, last.length⟩, ordered⟩ =
      joinLines ((lines.drop number).take below ++ [last]) := by
  obtain ⟨inside, -⟩ := List.getElem?_eq_some_iff.mp listed
  have reached : ¬ lines.length ≤ number := by omega
  simp only [selectLines, clampStop, if_pos inside, if_neg reached, listed, Option.getD_some,
    List.take_length]
  cases below with
  | zero =>
      rw [Nat.add_zero] at listed
      simp [joinLines, listed]
  | succ below =>
      obtain ⟨front, starts⟩ : ∃ front, lines[number]? = some front :=
        ⟨_, List.getElem?_eq_getElem (by omega)⟩
      have between : number + (below + 1) - (number + 1) = below := by omega
      rw [if_neg (by omega), between, starts, Option.getD_some, List.drop_zero,
        drop_of_listed starts, List.take_succ_cons]

theorem extractText_range (listed : span ∈ locateAll text) :
    extractText text (some span.range) = span.text := by
  obtain ⟨number, below, there, rfl⟩ := mem_locateAll_iff.mp listed
  obtain ⟨last, isLast, whole⟩ := there.take_drop
  have ends := there.lastLineLength (fun _ => feed_not_mem_of_mem_splitLines) isLast
  have ordered : ¬ Position.Before ⟨number + below, last.length⟩ ⟨number, 0⟩ := by
    simp only [Position.Before]
    omega
  have range : (FunctionSpan.ofLines number below ((splitLines text.points).drop number)).range =
      ⟨⟨number, 0⟩, ⟨number + below, last.length⟩, ordered⟩ := by
    rw [FunctionSpan.range, TextRange.mk.injEq]
    exact ⟨rfl, congrArg (Position.mk _) ends⟩
  rw [range, extractText, selectLines_of_lines isLast, FunctionSpan.ofLines, whole]

/-- The text of a function holds a brace. -/
theorem not_allBlank_text (listed : span ∈ locateAll text) :
    allBlank span.text.points = false := by
  obtain ⟨number, below, there, rfl⟩ := mem_locateAll_iff.mp listed
  obtain ⟨_, body, behind, -, -, joined, returns⟩ :=
    (Body.ofLines_eq_closes_iff.mp there.closes).1.joinLines_eq
  obtain ⟨front, rfl, -⟩ := returnsToZero_iff.mp returns
  rw [FunctionSpan.ofLines, joined, Bool.eq_false_iff]
  intro blank
  have closing := List.all_eq_true.mp blank (.char '}') (by simp)
  cases closing

/-! ## Functions that fill a text -/

/-- A function of a text that reaches from its first line to its last one. -/
structure Fills (span : FunctionSpan) (text : LooseText) : Prop where
  listed : span ∈ locateAll text
  first : span.startLine = 0
  last : span.endLine + 1 = (splitLines text.points).length

/-- The text of such a function is the normal form of the whole text. -/
theorem Fills.text_eq (fills : Fills span text) : span.text = normalForm text := by
  obtain ⟨number, below, there, rfl⟩ := mem_locateAll_iff.mp fills.listed
  obtain rfl : number = 0 := fills.first
  have whole : (splitLines text.points).length ≤ below + 1 := by
    have last := fills.last
    simp only [FunctionSpan.ofLines, Nat.zero_add] at last
    exact Nat.le_of_eq last.symm
  rw [FunctionSpan.ofLines, List.drop_zero, List.take_of_length_le whole, normalForm]

theorem Fills.not_allBlank (fills : Fills span text) : allBlank text.points = false := by
  rw [Bool.eq_false_iff]
  intro blank
  have visible := not_allBlank_text fills.listed
  rw [fills.text_eq, Bool.eq_false_iff] at visible
  refine visible (List.all_eq_true.mpr fun c listed => ?_)
  exact List.all_eq_true.mp blank c (mem_of_mem_normalForm listed)

end CodeComplexity.Source
