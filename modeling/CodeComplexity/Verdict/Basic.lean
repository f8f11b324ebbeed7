import CodeComplexity.Keyed
import CodeComplexity.Text.CodePoint

/-!
# Verdicts

What the classifier says about a piece of code: how complex it is and how sure of that it is, the
metrics that it found, how long it took, and what it suggests.
-/

namespace CodeComplexity

/-- How complex a piece of code is. -/
inductive Complexity where
  | simple
  | moderate
  | complex
  deriving DecidableEq, Repr

namespace Complexity

def name : Complexity → String
  | simple => "simple"
  | moderate => "moderate"
  | complex => "complex"

def byName : List (String × Complexity) :=
  [simple, moderate, complex].map fun complexity => (complexity.name, complexity)

@[simp] theorem lookup_byName (complexity : Complexity) :
    byName.lookup complexity.name = some complexity := by
  cases complexity <;> rfl

end Complexity

/-- What the classifier counted in a piece of code. -/
structure Metrics where
  linesOfCode : Nat
  cyclomatic : Nat
  nestingDepth : Nat
  loopCount : Nat
  conditionalCount : Nat
  deriving DecidableEq, Repr

/-- How sure the classifier is, from zero to one. -/
abbrev Confidence :=
  { share : Float // 0 ≤ share ∧ share ≤ 1 }

/-- A time span in milliseconds. -/
abbrev Duration :=
  { milliseconds : Float // 0 ≤ milliseconds }

/-- Texts by key, in the order in which the keys first came.  No key comes twice. -/
abbrev Suggestions :=
  { texts : Keyed Text.LooseText Text.LooseText // texts.keys.Nodup }

namespace Suggestions

def empty : Suggestions :=
  ⟨[], List.nodup_nil⟩

/-- The same texts with one more; a text of the same key gives way to it. -/
def set (key text : Text.LooseText) (known : Suggestions) : Suggestions :=
  ⟨known.val.set key text, Keyed.nodup_keys_set known.property key text⟩

/-- Texts by key in order of arrival, where the last text of a key counts. -/
def ofTexts (texts : Keyed Text.LooseText Text.LooseText) : Suggestions :=
  texts.foldl (fun known (key, text) => known.set key text) empty

end Suggestions

/-- What the classifier says about a piece of code. -/
structure Verdict where
  complexity : Complexity
  confidence : Confidence
  metrics : Metrics
  processingTime : Duration
  suggestions : Option Suggestions
  deriving Repr

/-- The suggested texts, in order. -/
def Verdict.suggestionTexts (verdict : Verdict) : List Text.LooseText :=
  (verdict.suggestions.getD .empty).val.map Prod.snd

end CodeComplexity
