import CodeComplexity.Source.Span
import CodeComplexity.Source.Start

/-!
# The body of a function

A function's body is found by counting braces from its first line on.  Braces in strings and
comments count like any other.  The depth starts at zero; the first brace that brings it back to
zero closes the body, and a closing brace at depth zero ends the search without result.  A statement
that ends with a semicolon before any brace has opened has no body at all.
-/

namespace CodeComplexity.Source

open Text

/-- How the brace count stands after the characters of a line. -/
inductive LineEnd where
  /-- The line holds the brace that closes the body. -/
  | closed
  /-- The line holds a closing brace that nothing has opened. -/
  | unbalanced
  /-- The count goes on with this many braces open. -/
  | running (depth : Nat)
  deriving DecidableEq, Repr

/-- Count the braces of a line, starting with `depth` open ones. -/
def LineEnd.after (depth : Nat) : Line → LineEnd
  | [] => .running depth
  | c :: rest =>
    if c = .char '{' then after (depth + 1) rest
    else if c = .char '}' then
      match depth with
      | 0 => .unbalanced
      | 1 => .closed
      | deeper + 2 => after (deeper + 1) rest
    else after depth rest

/-- What the lines from a function's start on hold. -/
inductive Body where
  /-- A body that is closed so many lines below the start. -/
  | closes (below : Nat)
  /-- A statement without a body. -/
  | blockless
  /-- A body that is never closed, or a closing brace before the first opening one. -/
  | malformed
  deriving DecidableEq, Repr

/-- The last visible character of a line is a semicolon. -/
def endsStatement (line : Line) : Bool :=
  (trimEnd isBlank line).getLast? == some (.char ';')

namespace Body

/-- The same body, told from the line above. -/
def lower : Body → Body
  | .closes below => .closes (below + 1)
  | other => other

/-- Read lines until the body closes, with `depth` braces open before the first of them. -/
def scan (depth : Nat) : List Line → Body
  | [] => .malformed
  | line :: rest =>
    match LineEnd.after depth line with
    | .closed => .closes 0
    | .unbalanced => .malformed
    | .running inside =>
      if inside = 0 && endsStatement line then .blockless else (scan inside rest).lower

/-- The body of the function that starts on the first of the lines. -/
def ofLines (lines : List Line) : Body :=
  scan 0 lines

end Body

/-- The span of `below + 1` lines that starts with the first of `lines`, which is line number
`startLine` of its document. -/
def FunctionSpan.ofLines (startLine below : Nat) (lines : List Line) : FunctionSpan where
  startLine := startLine
  endLine := startLine + below
  text := ⟨joinLines (lines.take (below + 1))⟩
  ordered := by omega

end CodeComplexity.Source
