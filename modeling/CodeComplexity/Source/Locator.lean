import CodeComplexity.Source.Body

/-!
# Finding functions

`locateAll` lists the spans of all functions of a text in document order; each start is looked at on
its own, so spans may nest.  `locateContaining` looks for the innermost function around a place by
going up from its line.
-/

namespace CodeComplexity.Source

open Text

/-- The spans of the functions that start on one of `lines`, the first of which is number
`first`. -/
def spansFrom (first : Nat) : List Line → List FunctionSpan
  | [] => []
  | line :: rest =>
    if isFunctionStart line then
      match Body.ofLines (line :: rest) with
      | .closes below => .ofLines first below (line :: rest) :: spansFrom (first + 1) rest
      | .blockless | .malformed => spansFrom (first + 1) rest
    else spansFrom (first + 1) rest

/-- The spans of all functions of a text, in document order. -/
def locateAll (text : LooseText) : List FunctionSpan :=
  spansFrom 0 (splitLines text.points)

/-- What one line means for the search for the function around a place below it. -/
inductive Look where
  /-- The function around the place starts here. -/
  | found (span : FunctionSpan)
  /-- There is no function around the place. -/
  | nothing
  /-- This line decides nothing, the line above may. -/
  | above
  deriving DecidableEq, Repr

/-- Look at line `number` in search of the function around line `target`.  A blank line above the
target ends the search, and so does a function whose body is malformed; a statement without a body
and a function that closes above the target are passed over. -/
def lookAt (lines : List Line) (target number : Nat) : Look :=
  match lines.drop number with
  | [] => .above
  | line :: rest =>
    if number < target && allBlank line then .nothing
    else if isFunctionStart line then
      match Body.ofLines (line :: rest) with
      | .closes below =>
        if target ≤ number + below then .found (.ofLines number below (line :: rest)) else .above
      | .blockless => .above
      | .malformed => .nothing
    else .above

/-- Go up from line `number` until one of the lines decides. -/
def searchUp (lines : List Line) (target : Nat) : Nat → Option FunctionSpan
  | 0 =>
    match lookAt lines target 0 with
    | .found span => some span
    | .nothing | .above => none
  | number + 1 =>
    match lookAt lines target (number + 1) with
    | .found span => some span
    | .nothing => none
    | .above => searchUp lines target number

/-- The innermost function around a place. -/
def locateContaining (text : LooseText) (position : Position) : Option FunctionSpan :=
  let lines := splitLines text.points
  if position.line < lines.length then searchUp lines position.line position.line else none

end CodeComplexity.Source
