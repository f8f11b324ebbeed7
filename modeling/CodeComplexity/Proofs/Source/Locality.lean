import CodeComplexity.Proofs.Source.Lines
import CodeComplexity.Proofs.Source.Nesting
import CodeComplexity.Text.Digest

/-!
# Functions and their surroundings

Whether a function is found, and with which text, depends on its own lines only.  Where the same
lines stand in another text, whatever stands around them, the same function is found.
-/

namespace CodeComplexity.Source

open Text

variable {lines more before after : List Line} {line : Line} {depth number below : Nat}

namespace Body

/-- What follows the line that closes a body does not matter. -/
theorem scan_take_append (closes : scan depth lines = .closes below) :
    scan depth (lines.take (below + 1) ++ more) = .closes below := by
  induction lines generalizing depth below with
  | nil => cases closes
  | cons line rest ih =>
      rw [List.take_succ_cons, List.cons_append]
      rcases scan_cons_eq_closes.mp closes with
        ⟨closed, rfl⟩ | ⟨inside, less, runs, goesOn, further, rfl⟩
      · exact scan_cons_eq_closes.mpr (.inl ⟨closed, rfl⟩)
      · exact scan_cons_eq_closes.mpr (.inr ⟨inside, less, runs, goesOn, ih further, rfl⟩)

end Body

/-- A function starts and closes wherever its lines stand. -/
theorem FunctionAt.moved (there : FunctionAt lines number below) :
    FunctionAt (before ++ (lines.drop number).take (below + 1) ++ after) before.length below := by
  obtain ⟨line, listed, isStart⟩ := there.starts
  have first : ((lines.drop number).take (below + 1))[0]? = some line := by
    simpa [List.getElem?_take] using listed
  constructor
  · refine ⟨line, ?_, isStart⟩
    have inside := (List.getElem?_eq_some_iff.mp first).1
    rw [List.append_assoc, List.getElem?_append_right (Nat.le_refl _), Nat.sub_self,
      List.getElem?_append_left inside, first]
  · rw [List.append_assoc, List.drop_left]
    exact Body.scan_take_append there.closes

/-- A listed function is listed, with the same text and thus under the same key, in every text in
which its lines stand, wherever they stand and whatever is above and below them. -/
theorem functions_keep_their_text {text other : LooseText} {span : FunctionSpan}
    (listed : span ∈ locateAll text) {before after : List Line}
    (shared : splitLines other.points =
      before ++ ((splitLines text.points).drop span.startLine).take
        (span.endLine + 1 - span.startLine) ++ after) :
    ∃ moved ∈ locateAll other, moved.startLine = before.length ∧
      moved.endLine = before.length + (span.endLine - span.startLine) ∧
      moved.text = span.text ∧ moved.text.digest = span.text.digest := by
  obtain ⟨number, below, there, rfl⟩ := mem_locateAll_iff.mp listed
  have height : number + below + 1 - number = below + 1 := by omega
  simp only [FunctionSpan.ofLines] at shared
  rw [height] at shared
  have moved : FunctionAt (splitLines other.points) before.length below := by
    rw [shared]
    exact there.moved
  have sameText : (FunctionSpan.ofLines before.length below
      ((splitLines other.points).drop before.length)).text =
        (FunctionSpan.ofLines number below ((splitLines text.points).drop number)).text := by
    have within := there.lt_length
    simp only [FunctionSpan.ofLines]
    rw [shared, List.append_assoc, List.drop_left, List.take_left' (by simp; omega)]
  refine ⟨_, mem_locateAll_iff.mpr ⟨before.length, below, moved, rfl⟩, rfl, ?_, sameText, ?_⟩
  · exact congrArg (before.length + ·) (Nat.add_sub_cancel_left number below).symm
  · rw [sameText]

/-- The inner one of two functions, moved to a place among stray braces. -/
def movedInner : LooseText :=
  "\x7d\x7d\n  function g() \x7b\n  \x7d\n(\x7b"

theorem functions_keep_their_text_moved :
    ∃ moved ∈ locateAll movedInner, moved.startLine = 1 ∧ moved.endLine = 2 ∧
      moved.text = "  function g() \x7b\n  \x7d" := by
  have there : FunctionAt (splitLines nestedFunctions.points) 1 1 :=
    ⟨⟨spelled "  function g() \x7b", by decide +kernel, by decide +kernel⟩, by decide +kernel⟩
  have shared : splitLines movedInner.points =
      [spelled "\x7d\x7d"] ++ ((splitLines nestedFunctions.points).drop 1).take (1 + 1 + 1 - 1) ++
        [spelled "(\x7b"] := by
    decide +kernel
  obtain ⟨moved, listed, starts, ends, text, -⟩ :=
    functions_keep_their_text (mem_locateAll_iff.mpr ⟨1, 1, there, rfl⟩) shared
  exact ⟨moved, listed, starts, ends, text.trans (by decide +kernel)⟩

end CodeComplexity.Source
