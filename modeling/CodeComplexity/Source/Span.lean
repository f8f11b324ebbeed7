import CodeComplexity.Source.Position
import CodeComplexity.Text.Lines

/-!
# Function spans

A function span is a run of whole lines, from the line where a function starts to the line that
holds its closing brace, together with the text of those lines.
-/

namespace CodeComplexity.Source

open Text

/-- A run of whole lines that holds one function. -/
structure FunctionSpan where
  startLine : Nat
  endLine : Nat
  text : LooseText
  ordered : startLine ≤ endLine
  deriving DecidableEq, Repr

namespace FunctionSpan

/-- The number of characters of the last line of the span's text. -/
def lastLineLength (span : FunctionSpan) : Nat :=
  ((breakLines span.text.points).getLast (breakLines_ne_nil _)).length

theorem not_before_start (span : FunctionSpan) (character : Nat) :
    ¬ Position.Before ⟨span.endLine, character⟩ ⟨span.startLine, 0⟩ := by
  have := span.ordered
  simp only [Position.Before]
  omega

/-- The range from the start of the first line to the end of the last one. -/
def range (span : FunctionSpan) : TextRange :=
  ⟨⟨span.startLine, 0⟩, ⟨span.endLine, span.lastLineLength⟩, span.not_before_start _⟩

/-- Whether a line, counted from zero, belongs to the span. -/
def containsLine (span : FunctionSpan) (line : Int) : Bool :=
  (span.startLine : Int) ≤ line && line ≤ (span.endLine : Int)

end FunctionSpan

end CodeComplexity.Source
