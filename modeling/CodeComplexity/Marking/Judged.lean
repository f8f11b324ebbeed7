import CodeComplexity.Source.Locator
import CodeComplexity.Verdict.Cache

/-!
# Judged functions

Functions of a text together with their cached verdicts.  A function without a verdict in the cache
is left out of the judged ones and is counted as unanalysed in a tally.  Looking up a verdict is a
use of its entry, so each look-up leaves a cache for the next one.  Where one of them fails, the
ones before have been uses nevertheless.
-/

namespace CodeComplexity

open Source

/-- A function and its verdict. -/
structure JudgedFunction where
  span : FunctionSpan
  verdict : Verdict

/-- Look up the verdict of each function in turn, until a look-up fails. -/
def lookUpAll (clock : ClockReading) : List FunctionSpan → Cache →
    Except LookFault (List (FunctionSpan × Option Verdict)) × Cache
  | [], cache => (.ok [], cache)
  | span :: rest, cache =>
    match cache.look clock span.text with
    | .error fault => (.error fault, cache)
    | .ok (verdict, used) =>
      let (others, left) := lookUpAll clock rest used
      (others.map ((span, verdict) :: ·), left)

/-- The judged ones among functions that were looked up. -/
def judgedAmong (found : List (FunctionSpan × Option Verdict)) : List JudgedFunction :=
  found.filterMap fun (span, verdict) => verdict.map fun verdict => ⟨span, verdict⟩

/-- The judged functions of a text. -/
def judge (clock : ClockReading) (text : Text.LooseText) (cache : Cache) :
    Except LookFault (List JudgedFunction) × Cache :=
  let (found, left) := lookUpAll clock (locateAll text) cache
  (found.map judgedAmong, left)

/-- How many functions have a verdict of each kind, or none. -/
structure Tally where
  simple : Nat
  moderate : Nat
  complex : Nat
  unanalysed : Nat
  deriving DecidableEq, Repr

namespace Tally

/-- The tally of verdicts. -/
def ofVerdicts (verdicts : List (Option Verdict)) : Tally :=
  let count (complexity : Option Complexity) : Nat :=
    (verdicts.map fun verdict => verdict.map Verdict.complexity).count complexity
  ⟨count (some .simple), count (some .moderate), count (some .complex), count none⟩

/-- The tally of the functions of a text. -/
def ofText (clock : ClockReading) (text : Text.LooseText) (cache : Cache) :
    Except LookFault Tally × Cache :=
  let (found, left) := lookUpAll clock (locateAll text) cache
  (found.map fun found => ofVerdicts (found.map Prod.snd), left)

def total (tally : Tally) : Nat :=
  tally.simple + tally.moderate + tally.complex + tally.unanalysed

end Tally

end CodeComplexity
