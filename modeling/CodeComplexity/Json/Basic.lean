import CodeComplexity.Keyed
import CodeComplexity.Text.CodePoint

/-!
# JSON values

Values as they come over the wire.  Integers and floating-point numbers are kept apart, and so are
texts and strings that hold surrogates on their own, which are no texts.  The keys of an object may
hold such surrogates, too.  Its members stay in the order in which their keys first came.
-/

namespace CodeComplexity

/-- A JSON value. -/
inductive Json where
  | null
  | bool (value : Bool)
  | int (value : Int)
  | float (value : Float)
  | str (value : String)
  /-- A string that holds surrogates on their own. -/
  | loose (value : Text.LooseText)
  | arr (items : List Json)
  | obj (members : List (Text.LooseText × Json))
  deriving Inhabited, Repr

namespace Json

def ofLooseText (value : Text.LooseText) : Json :=
  match value.text? with
  | some text => .str text
  | none => .loose value

/-- The members of an object. -/
abbrev Members := Keyed Json Text.LooseText

/-- Members in order of arrival, where the last value of a key counts. -/
def ofMembers (members : Members) : Json :=
  .obj (members.foldl (fun known (key, value) => Keyed.set key value known) [])

def get? (value : Json) (key : String) : Option Json :=
  match value with
  | .obj members => Keyed.get? members key
  | _ => none

theorem get?_eq_some {value found : Json} {key : String} :
    value.get? key = some found ↔
      ∃ members, value = .obj members ∧ Keyed.get? members key = some found := by
  cases value with
  | obj members => simp [get?]
  | _ => simp [get?]

/-- The first of two keys that an object has, with its value. -/
def getEither? (value : Json) (first second : String) : Option (String × Json) :=
  match value.get? first, value.get? second with
  | some found, _ => some (first, found)
  | none, some found => some (second, found)
  | none, none => none

def str? : Json → Option String
  | .str value => some value
  | _ => none

/-- The string of a string value. -/
def looseText? : Json → Option Text.LooseText
  | .str value => some value
  | .loose value => some value
  | _ => none

@[simp] theorem looseText?_ofLooseText (loose : Text.LooseText) :
    (ofLooseText loose).looseText? = some loose := by
  rw [ofLooseText]
  split
  · next text found => rw [looseText?, Text.LooseText.ofString_of_text? found]
  · rfl

/-- Whether a value says anything: not null, false, zero or empty. -/
def isTruthy : Json → Bool
  | .null => false
  | .bool value => value
  | .int value => value != 0
  | .float value => value != 0
  | .str value => value != ""
  | .loose value => !value.points.isEmpty
  | .arr items => !items.isEmpty
  | .obj members => !members.isEmpty

end Json

end CodeComplexity
