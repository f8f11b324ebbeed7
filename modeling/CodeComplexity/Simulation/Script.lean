import CodeComplexity.Classifier.Reply

/-!
# Scripted replies

A stand-in for the classifier: a list of rules says what comes back from each request.  The first
rule that applies is taken, and is used up unless it repeats.
-/

namespace CodeComplexity.Simulation

/-- One scripted reply. -/
structure Rule where
  /-- The rule applies to requests whose code holds this text. -/
  fragment : String
  repeats : Bool
  /-- How long the reply takes. -/
  delay : Int
  reply : Reply
  deriving DecidableEq, Repr

def holdsText (fragment : List Char) : List Char → Bool
  | [] => fragment.isEmpty
  | c :: rest => fragment.isPrefixOf (c :: rest) || holdsText fragment rest

def Rule.applies (rule : Rule) (code : String) : Bool :=
  holdsText rule.fragment.toList code.toList

/-- The first rule that applies to a request, and the rules that are left after it. -/
def takeRule (code : String) : List Rule → Option Rule × List Rule
  | [] => (none, [])
  | rule :: rest =>
    if rule.applies code then (some rule, if rule.repeats then rule :: rest else rest)
    else
      let (found, left) := takeRule code rest
      (found, rule :: left)

/-- The scripted replies of a classifier, and the reply to requests that no rule applies to. -/
structure Script where
  analyze : List Rule
  health : List Rule
  otherwise : Reply

/-- The reply that a request gets, how long it takes, and the script that is left. -/
def Script.answer (script : Script) : Request → (Int × Reply) × Script
  | .analyze _ code _ =>
    let (rule, left) := takeRule code script.analyze
    ((rule.map fun rule => (rule.delay, rule.reply)).getD (0, script.otherwise),
      { script with analyze := left })
  | .health _ _ =>
    let (rule, left) := takeRule "" script.health
    ((rule.map fun rule => (rule.delay, rule.reply)).getD (0, script.otherwise),
      { script with health := left })

end CodeComplexity.Simulation
