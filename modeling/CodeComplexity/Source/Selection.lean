import CodeComplexity.Source.Span

/-!
# Selected text

The part of a text that a range covers.  The lines of the part are put together with line feeds; a
range that ends below the last line covers everything from its start on, and one that starts there
covers nothing.  No range means the whole text, just as it was given.
-/

namespace CodeComplexity.Source

open Text

/-- Where a range stops within the given lines: the end of the last one if it reaches below. -/
def clampStop (lines : List Line) (stop : Position) : Position :=
  if stop.line < lines.length then stop
  else ⟨lines.length - 1, (lines.getLast?.getD []).length⟩

/-- The characters that a range covers. -/
def selectLines (lines : List Line) (range : TextRange) : List CodePoint :=
  let start := range.start
  let stop := clampStop lines range.stop
  let lineAt (number : Nat) : Line := (lines[number]?).getD []
  if lines.length ≤ start.line then []
  else if start.line = stop.line then
    ((lineAt start.line).take stop.character).drop start.character
  else
    let between := (lines.drop (start.line + 1)).take (stop.line - (start.line + 1))
    joinLines ((lineAt start.line).drop start.character :: between
      ++ [(lineAt stop.line).take stop.character])

/-- The part of a text that is selected: what the range covers, or all of it. -/
def extractText (text : LooseText) : Option TextRange → LooseText
  | none => text
  | some range => ⟨selectLines (splitLines text.points) range⟩

end CodeComplexity.Source
