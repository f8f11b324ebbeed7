import CodeComplexity.Decimal.Shortest
import CodeComplexity.Json.Basic

/-!
# The settings file

What a settings file gives.  The file holds a JSON value but is read by the rules of YAML 1.1, for
which a number with an exponent and no point is a text, and so are the words for numbers that are
not finite.  What the file holds has to give members: it is an object or a sequence of pairs, and a
value that says nothing gives none.
-/

namespace CodeComplexity

/-- Why a file gives no members. -/
inductive FileFault where
  /-- A text holds a character that may not stand in a file. -/
  | unprintable
  | notMembers
  /-- An item of a sequence is no pair. -/
  | wrongLength (index length : Nat)
  deriving DecidableEq, Repr

namespace FileFault

/-- What is wrong with an item that is no pair. -/
def lengthMessage (index length : Nat) : String :=
  "dictionary update sequence element #" ++ toString index ++ " has length " ++ toString length
    ++ "; 2 is required"

end FileFault

namespace SettingsFile

/-- A floating-point number as a file gives it: without a point in it, it is a text. -/
def plainFloat (number : Float) : Json :=
  let text := Decimal.floatText "NaN" "Infinity" number
  if text.toList.contains '.' then .float number else .str text

mutual

/-- A value as a file gives it. -/
def plainValue : Json → Json
  | .float number => plainFloat number
  | .arr items => .arr (plainItems items)
  | .obj members => .obj (plainMembers members)
  | .null => .null
  | .bool value => .bool value
  | .int value => .int value
  | .str value => .str value
  | .loose value => .loose value

def plainItems : List Json → List Json
  | [] => []
  | item :: rest => plainValue item :: plainItems rest

def plainMembers : List (Text.LooseText × Json) → List (Text.LooseText × Json)
  | [] => []
  | (key, value) :: rest => (key, plainValue value) :: plainMembers rest

end

/-- A character that a JSON text holds as it is and that may not stand in a file. -/
def isUnprintable (c : Char) : Bool :=
  c.toNat = 0x7F

mutual

def isPrintable : Json → Bool
  | .str value => !value.toList.any isUnprintable
  | .loose value => !value.replaced.toList.any isUnprintable
  | .arr items => itemsPrintable items
  | .obj members => membersPrintable members
  | .null | .bool _ | .int _ | .float _ => true

def itemsPrintable : List Json → Bool
  | [] => true
  | item :: rest => isPrintable item && itemsPrintable rest

def membersPrintable : List (Text.LooseText × Json) → Bool
  | [] => true
  | (key, value) :: rest =>
    !key.replaced.toList.any isUnprintable && isPrintable value && membersPrintable rest

end

/-- The parts of a value that has some: the characters of a text, the items of an array, the keys of
an object. -/
def parts? : Json → Option (List Json)
  | .str value => some (value.toList.map fun c => .str (String.singleton c))
  | .loose value => some (value.points.map fun point => .ofLooseText ⟨[point]⟩)
  | .arr items => some items
  | .obj members => some (members.map fun (key, _) => .ofLooseText key)
  | .null | .bool _ | .int _ | .float _ => none

/-- The members that pairs of a key and a value give, from the item with a number on.  Of equal keys
the last one counts. -/
def membersOfPairs (known : Json.Members) (index : Nat) :
    List Json → Except FileFault Json.Members
  | [] => .ok known
  | item :: rest =>
    match parts? item with
    | none => .error .notMembers
    | some [.str key, value] => membersOfPairs (known.set key value) (index + 1) rest
    | some [_, _] => .error .notMembers
    | some parts => .error (.wrongLength index parts.length)

/-- The members that a value gives. -/
def membersOfValue (value : Json) : Except FileFault Json.Members :=
  if !value.isTruthy then .ok []
  else match value with
    | .obj members => .ok members
    | other =>
      match parts? other with
      | none => .error .notMembers
      | some items => membersOfPairs [] 0 items

/-- The members that a file with a value in it gives. -/
def members (value : Json) : Except FileFault Json.Members :=
  if isPrintable value then membersOfValue (plainValue value) else .error .unprintable

end SettingsFile

end CodeComplexity
