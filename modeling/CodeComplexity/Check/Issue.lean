import CodeComplexity.Json.Basic

/-!
# What is wrong with a value

A value from outside is checked against what is wanted, and every fault that is found is an `Issue`:
its cause and the path of keys that leads to it.  A value that is refused is reported under the name
of what it was checked as, with all its issues in order.
-/

namespace CodeComplexity.Check

/-- Why a value is refused. -/
inductive Cause where
  | missing
  | notObject (wanted : String)
  | notText
  /-- The text holds surrogates that stand for no character. -/
  | unpairedSurrogate
  | notInteger
  | fractional
  | unreadableInteger
  | oversizedInteger
  | notFinite
  | notNumber
  | unreadableNumber
  | notTruth
  | unreadableTruth
  | notMapping
  /-- The value is none of the members of an enumeration. -/
  | notMember (members : List String)
  /-- The value is none of the texts that are allowed. -/
  | notAllowed (texts : List String)
  | below (bound : Int)
  | notAbove (bound : Int)
  | above (bound : Int)
  | unknownKey
  /-- The value breaks a rule that its parts keep each on its own. -/
  | broken (rule : String)
  deriving DecidableEq, Repr

namespace Cause

/-- Choices in a sentence: quoted, with commas, and with "or" before the last one. -/
def choices : List String → String
  | [] => ""
  | [only] => "'" ++ only ++ "'"
  | [first, last] => "'" ++ first ++ "' or '" ++ last ++ "'"
  | first :: rest => "'" ++ first ++ "', " ++ choices rest

def kind : Cause → String
  | .missing => "missing"
  | .notObject _ => "model_type"
  | .notText => "string_type"
  | .unpairedSurrogate => "string_unicode"
  | .notInteger => "int_type"
  | .fractional => "int_from_float"
  | .unreadableInteger => "int_parsing"
  | .oversizedInteger => "int_parsing_size"
  | .notFinite => "finite_number"
  | .notNumber => "float_type"
  | .unreadableNumber => "float_parsing"
  | .notTruth => "bool_type"
  | .unreadableTruth => "bool_parsing"
  | .notMapping => "dict_type"
  | .notMember _ => "enum"
  | .notAllowed _ => "literal_error"
  | .below _ => "greater_than_equal"
  | .notAbove _ => "greater_than"
  | .above _ => "less_than_equal"
  | .unknownKey => "extra_forbidden"
  | .broken _ => "value_error"

/-- What a cause says. -/
def message : Cause → String
  | .missing => "Field required"
  | .notObject wanted => "Input should be a valid dictionary or instance of " ++ wanted
  | .notText => "Input should be a valid string"
  | .unpairedSurrogate =>
    "Input should be a valid string, unable to parse raw data as a unicode string"
  | .notInteger => "Input should be a valid integer"
  | .fractional => "Input should be a valid integer, got a number with a fractional part"
  | .unreadableInteger =>
    "Input should be a valid integer, unable to parse string as an integer"
  | .oversizedInteger => "Unable to parse input string as an integer, exceeded maximum size"
  | .notFinite => "Input should be a finite number"
  | .notNumber => "Input should be a valid number"
  | .unreadableNumber => "Input should be a valid number, unable to parse string as a number"
  | .notTruth => "Input should be a valid boolean"
  | .unreadableTruth => "Input should be a valid boolean, unable to interpret input"
  | .notMapping => "Input should be a valid dictionary"
  | .notMember members => "Input should be " ++ choices members
  | .notAllowed texts => "Input should be " ++ choices texts
  | .below bound => "Input should be greater than or equal to " ++ toString bound
  | .notAbove bound => "Input should be greater than " ++ toString bound
  | .above bound => "Input should be less than or equal to " ++ toString bound
  | .unknownKey => "Extra inputs are not permitted"
  | .broken rule => "Value error, " ++ rule

end Cause

/-- A fault of a value, and the keys that lead to it from the outside in. -/
structure Issue where
  cause : Cause
  path : List String
  deriving DecidableEq, Repr

namespace Issue

/-- The same fault, told from the object that holds the value under a key. -/
def under (key : String) (issue : Issue) : Issue :=
  { issue with path := key :: issue.path }

/-- `PATH: MESSAGE [KIND]` -/
def text (issue : Issue) : String :=
  ".".intercalate issue.path ++ ": " ++ issue.cause.message ++ " [" ++ issue.cause.kind ++ "]"

end Issue

/-- A value that was refused: what it was checked as, and its faults. -/
structure Refusal where
  title : String
  issues : List Issue
  deriving DecidableEq, Repr

/-- `TITLE(ISSUE; ISSUE)` -/
def Refusal.message (refusal : Refusal) : String :=
  refusal.title ++ "(" ++ "; ".intercalate (refusal.issues.map Issue.text) ++ ")"

end CodeComplexity.Check
