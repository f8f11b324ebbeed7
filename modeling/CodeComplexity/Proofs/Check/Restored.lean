import CodeComplexity.Check.Scalar

/-!
# Written values are read back

A writer puts a value into the form of the wire, and a check reads values from that form.
`Restores` says that the check accepts whatever the writer has written, as the value that it was
written for.  Simple values come first, then the members of objects.
-/

namespace CodeComplexity

open Text

namespace Check

variable {α : Type} {check : Json → Checked α} {write : α → Json}

/-- A check accepts what a writer has written of any value, as that value. -/
def Restores (check : Json → Checked α) (write : α → Json) : Prop :=
  ∀ value, check (write value) = .valid value

/-! ## Simple values -/

theorem restores_text : Restores text .ofLooseText := by
  intro loose
  rw [text, Json.looseText?_ofLooseText]

theorem restores_truth : Restores truth .bool :=
  fun _ => rfl

theorem restores_natural : Restores natural fun count => .int count := by
  intro count
  have enough : (0 : Int) ≤ count := Int.natCast_nonneg count
  simp [natural, integerFrom, integer, Checked.andThen, enough]

theorem restores_positive : Restores positive fun count => .int count.val := by
  intro ⟨count, above⟩
  have enough : (1 : Int) ≤ count := by omega
  simp [positive, integerFrom, integer, Checked.andThen, enough]

/-- One of a few values is read from its name, if the name stands for it. -/
theorem restores_oneOf {cause : Cause} {meanings : List (String × α)} {name : α → String}
    (named : ∀ value, meanings.lookup (name value) = some value) :
    Restores (oneOf cause meanings) fun value => .str (name value) := by
  intro value
  rw [oneOf, named value]

/-! ## Members of objects -/

theorem Restores.optional (restores : Restores check write) (key : String) (default value : α) :
    optional key check default (some (write value)) = .valid value := by
  rw [Check.optional, restores value]
  rfl

theorem Restores.required (restores : Restores check write) (key : String) (value : α) :
    required key check (some (write value)) = .valid value := by
  rw [Check.required, restores value]
  rfl

/-- A member that is written under its short name is read back. -/
theorem Restores.requiredEither (restores : Restores check write) {short full : String}
    {object : Json} {value : α} (found : object.getEither? short full = some (short, write value)) :
    requiredEither short full check object = .valid value := by
  rw [Check.requiredEither, found]
  dsimp only
  rw [restores value]
  rfl

theorem Restores.optionalEither (restores : Restores check write) {short full : String}
    {object : Json} {default value : α}
    (found : object.getEither? short full = some (short, write value)) :
    optionalEither short full check default object = .valid value := by
  rw [Check.optionalEither, found]
  dsimp only
  rw [restores value]
  rfl

end Check

end CodeComplexity
