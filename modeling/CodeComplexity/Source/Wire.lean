import CodeComplexity.Check.Scalar
import CodeComplexity.Source.Span

/-!
# Positions, ranges and spans on the wire

How positions, ranges and spans are read from JSON values and written as such.  The parts are
checked first; whether they are in order is asked only of parts that are all acceptable.
-/

namespace CodeComplexity.Source

open Check

/-- The position that is made of a line and a character. -/
def Position.ofParts (line character : Option Json) : Checked Position :=
  Position.mk <$> required "line" natural line <*> optional "character" natural 0 character

def Position.ofJson : Json → Checked Position :=
  object "Position" fun value => Position.ofParts (value.get? "line") (value.get? "character")

def Position.toJson (position : Position) : Json :=
  .obj [("line", .int position.line), ("character", .int position.character)]

/-- The range between two positions. -/
def TextRange.ofEnds (start stop : Position) : Checked TextRange :=
  match TextRange.ofPositions? start stop with
  | some range => .valid range
  | none => .refuse (.broken "range end precedes range start")

def TextRange.ofJson : Json → Checked TextRange :=
  object "TextRange" fun value =>
    (Prod.mk <$> required "start" Position.ofJson (value.get? "start")
      <*> required "end" Position.ofJson (value.get? "end")).andThen
    fun (start, stop) => TextRange.ofEnds start stop

def TextRange.toJson (range : TextRange) : Json :=
  .obj [("start", range.start.toJson), ("end", range.stop.toJson)]

/-- The span from one line to another one. -/
def FunctionSpan.ofLineNumbers (startLine endLine : Nat) (text : Text.LooseText) :
    Checked FunctionSpan :=
  if ordered : startLine ≤ endLine then .valid ⟨startLine, endLine, text, ordered⟩
  else .refuse (.broken "end_line precedes start_line")

/-- The span that is made of its first line, its last line and its text. -/
def FunctionSpan.ofParts (startLine endLine text : Option Json) : Checked FunctionSpan :=
  ((fun first last text => (first, last, text)) <$> required "start_line" natural startLine
    <*> required "end_line" natural endLine <*> required "text" Check.text text).andThen
  fun (first, last, text) => FunctionSpan.ofLineNumbers first last text

def FunctionSpan.ofJson : Json → Checked FunctionSpan :=
  object "FunctionSpan" fun value =>
    FunctionSpan.ofParts (value.get? "start_line") (value.get? "end_line") (value.get? "text")

def FunctionSpan.members (span : FunctionSpan) : Json.Members :=
  [("start_line", .int span.startLine), ("end_line", .int span.endLine),
    ("text", .ofLooseText span.text)]

def FunctionSpan.toJson (span : FunctionSpan) : Json :=
  .obj span.members

end CodeComplexity.Source
