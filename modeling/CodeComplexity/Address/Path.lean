/-!
# Paths

The path of an address is a sequence of steps with slashes between them.  A step that is one dot
goes nowhere, and one that is two dots goes back.
-/

namespace CodeComplexity.Address

/-- The steps of a path behind those that have been taken, the latest first.  Nothing goes back
beyond the slash that a path starts with. -/
def walk (taken : List (List Char)) : List (List Char) → List (List Char)
  | [] => taken.reverse
  | step :: rest =>
    if step = ['.'] then walk taken rest
    else if step = ['.', '.'] then walk (if taken = [[]] then taken else taken.drop 1) rest
    else walk (step :: taken) rest

/-- A path without steps that are dots. -/
def withoutDots (path : List Char) : List Char :=
  let steps := path.splitOn '/'
  if steps.contains ['.'] || steps.contains ['.', '.'] then ['/'].intercalate (walk [] steps)
  else path

end CodeComplexity.Address
