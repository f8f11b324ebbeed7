/-!
# Positions and ranges

Places in a document, counted from zero in lines and in characters of a line.  Positions are ordered
by line and then by character, and a range never ends before it starts.
-/

namespace CodeComplexity.Source

/-- A place in a document. -/
structure Position where
  line : Nat
  character : Nat
  deriving DecidableEq, Repr

namespace Position

/-- One place comes before another one. -/
def Before (first second : Position) : Prop :=
  first.line < second.line ∨ first.line = second.line ∧ first.character < second.character

instance (first second : Position) : Decidable (first.Before second) :=
  inferInstanceAs (Decidable (_ ∨ _))

theorem not_before_self (position : Position) : ¬ position.Before position := by
  simp [Before]

theorem Before.trans {a b c : Position} (ab : a.Before b) (bc : b.Before c) : a.Before c := by
  rw [Before] at *
  omega

end Position

/-- The text between two places, the second of which does not come before the first. -/
structure TextRange where
  start : Position
  stop : Position
  ordered : ¬ stop.Before start
  deriving DecidableEq, Repr

namespace TextRange

/-- The range between two places, if they are in order. -/
def ofPositions? (start stop : Position) : Option TextRange :=
  if ordered : stop.Before start then none else some ⟨start, stop, ordered⟩

def empty (position : Position) : TextRange :=
  ⟨position, position, position.not_before_self⟩

theorem ofPositions?_eq_none_iff {start stop : Position} :
    ofPositions? start stop = none ↔ stop.Before start := by
  rw [ofPositions?]
  split <;> simp_all

end TextRange

end CodeComplexity.Source
