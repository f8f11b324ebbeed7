import CodeComplexity.Check.Issue

/-!
# Checked values

The outcome of a check is a value or the faults that were found.  Checks of several parts put
together with `<*>` report the faults of all parts in order; a check that needs the value of another
one comes after it with `andThen` and is reached only if that one found no fault.
-/

namespace CodeComplexity.Check

/-- A value that was accepted, or why it was refused. -/
inductive Checked (α : Type) where
  | valid (value : α)
  | refused (issues : List Issue)
  deriving Repr

namespace Checked

variable {α β : Type}

def map (change : α → β) : Checked α → Checked β
  | .valid value => .valid (change value)
  | .refused issues => .refused issues

/-- Apply one outcome to another one, and keep the faults of both. -/
def apply : Checked (α → β) → Checked α → Checked β
  | .valid change, .valid value => .valid (change value)
  | .valid _, .refused issues => .refused issues
  | .refused issues, .valid _ => .refused issues
  | .refused issues, .refused more => .refused (issues ++ more)

instance : Functor Checked where
  map := map

instance : Applicative Checked where
  pure := .valid
  seq change value := change.apply (value ())

/-- A further check, of what was accepted. -/
def andThen (checked : Checked α) (further : α → Checked β) : Checked β :=
  match checked with
  | .valid value => further value
  | .refused issues => .refused issues

/-- Report one fault of the value itself. -/
def refuse (cause : Cause) : Checked α :=
  .refused [⟨cause, []⟩]

/-- The outcome, told from the object that holds the value under a key. -/
def under (key : String) : Checked α → Checked α
  | .valid value => .valid value
  | .refused issues => .refused (issues.map (·.under key))

/-- The accepted value, or the refusal under the name of what was checked. -/
def titled (title : String) : Checked α → Except Refusal α
  | .valid value => .ok value
  | .refused issues => .error ⟨title, issues⟩

@[simp] theorem map_eq_valid {change : α → β} {checked : Checked α} {value : β} :
    change <$> checked = .valid value ↔ ∃ inner, checked = .valid inner ∧ change inner = value := by
  cases checked <;> simp [Functor.map, map]

@[simp] theorem seq_eq_valid {change : Checked (α → β)} {checked : Checked α} {value : β} :
    change <*> checked = .valid value ↔
      ∃ function inner, change = .valid function ∧ checked = .valid inner ∧
        function inner = value := by
  cases change <;> cases checked <;> simp [Seq.seq, apply]

@[simp] theorem andThen_eq_valid {checked : Checked α} {further : α → Checked β} {value : β} :
    checked.andThen further = .valid value ↔
      ∃ inner, checked = .valid inner ∧ further inner = .valid value := by
  cases checked <;> simp [andThen]

@[simp] theorem under_eq_valid {key : String} {checked : Checked α} {value : α} :
    checked.under key = .valid value ↔ checked = .valid value := by
  cases checked <;> simp [under]

@[simp] theorem titled_eq_ok {title : String} {checked : Checked α} {value : α} :
    checked.titled title = .ok value ↔ checked = .valid value := by
  cases checked <;> simp [titled]

end Checked

/-- Check the value of a key that has to be there. -/
def required {α : Type} (key : String) (check : Json → Checked α) : Option Json → Checked α
  | none => .refused [⟨.missing, [key]⟩]
  | some value => (check value).under key

/-- Check the value of a key that may be left out. -/
def optional {α : Type} (key : String) (check : Json → Checked α) (default : α) :
    Option Json → Checked α
  | none => .valid default
  | some value => (check value).under key

/-- Check the value of a key that has to be there, under its short or under its full name.  The
short name counts if both are there. -/
def requiredEither {α : Type} (short full : String) (check : Json → Checked α) (value : Json) :
    Checked α :=
  match value.getEither? short full with
  | none => .refused [⟨.missing, [short]⟩]
  | some (key, found) => (check found).under key

/-- Check the value of a key that may be left out, under its short or under its full name.  The
short name counts if both are there. -/
def optionalEither {α : Type} (short full : String) (check : Json → Checked α) (default : α)
    (value : Json) : Checked α :=
  match value.getEither? short full with
  | none => .valid default
  | some (key, found) => (check found).under key

/-- Check a value that may be null. -/
def nullable {α : Type} (check : Json → Checked α) : Json → Checked (Option α)
  | .null => .valid none
  | value => some <$> check value

def object {α : Type} (wanted : String) (check : Json → Checked α) : Json → Checked α
  | .obj members => check (.obj members)
  | _ => .refuse (.notObject wanted)

end CodeComplexity.Check
