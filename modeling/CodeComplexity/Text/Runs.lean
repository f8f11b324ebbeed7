/-!
# Runs of characters

Properties of characters as closed runs of code points.
-/

namespace CodeComplexity.Text

def inRuns (runs : List (Nat × Nat)) (code : Nat) : Bool :=
  runs.any fun (first, last) => first ≤ code && code ≤ last

/-- The value of the first of several closed runs that a code point lies in. -/
def valueIn? {α : Type} (runs : List (Nat × Nat × α)) (code : Nat) : Option α :=
  (runs.find? fun (first, last, _) => first ≤ code && code ≤ last).map fun (_, _, value) => value

end CodeComplexity.Text
