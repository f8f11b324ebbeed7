import CodeComplexity.Check.Scalar
import CodeComplexity.Verdict.Basic

/-!
# Verdicts on the wire

How a verdict is read from the classifier's object and written in the same form.  Some of the
metrics have a short name on the wire and may be given by their full name as well; the short name
counts if both are there, and an issue is told under the name that was found.  The keys of
suggestions may hold surrogates when they are read; they are written with replacement characters in
place of these.
-/

namespace CodeComplexity

open Check

/-- A confidence: a number from zero to one.  What is no number fails the upper bound. -/
def Confidence.ofJson (value : Json) : Checked Confidence :=
  (number value).andThen fun share =>
    if high : share ≤ 1 then
      if low : 0 ≤ share then .valid ⟨share, low, high⟩ else .refuse (.below 0)
    else .refuse (.above 1)

/-- A duration: a number that is not negative. -/
def Duration.ofJson (value : Json) : Checked Duration :=
  (number value).andThen fun milliseconds =>
    if low : 0 ≤ milliseconds then .valid ⟨milliseconds, low⟩ else .refuse (.below 0)

def Duration.zero : Duration :=
  ⟨0, by decide⟩

def Complexity.ofJson : Json → Checked Complexity :=
  oneOf (.notMember (byName.map Prod.fst)) byName

namespace Suggestions

def ofJson (value : Json) : Checked Suggestions :=
  ofTexts <$> textMapping value

def toJson (suggestions : Suggestions) : Json :=
  .ofMembers (suggestions.val.map fun (key, text) =>
    (Text.LooseText.ofString key.replaced, .ofLooseText text))

end Suggestions

namespace Metrics

def ofJson : Json → Checked Metrics :=
  object "Metrics" fun value =>
    Metrics.mk <$> requiredEither "loc" "lines_of_code" natural value
      <*> required "cyclomatic" natural (value.get? "cyclomatic")
      <*> requiredEither "nesting" "nesting_depth" natural value
      <*> optionalEither "loops" "loop_count" natural 0 value
      <*> optionalEither "conditionals" "conditional_count" natural 0 value

def toJson (metrics : Metrics) : Json :=
  .obj [("loc", .int metrics.linesOfCode), ("cyclomatic", .int metrics.cyclomatic),
    ("nesting", .int metrics.nestingDepth), ("loops", .int metrics.loopCount),
    ("conditionals", .int metrics.conditionalCount)]

end Metrics

namespace Verdict

def ofJson : Json → Checked Verdict :=
  object "ComplexityVerdict" fun value =>
    Verdict.mk <$> required "complexity" Complexity.ofJson (value.get? "complexity")
      <*> required "confidence" Confidence.ofJson (value.get? "confidence")
      <*> required "metrics" Metrics.ofJson (value.get? "metrics")
      <*> optional "processing_time_ms" Duration.ofJson Duration.zero
        (value.get? "processing_time_ms")
      <*> optional "suggestions" (nullable Suggestions.ofJson) none (value.get? "suggestions")

def toJson (verdict : Verdict) : Json :=
  .obj [("complexity", .str verdict.complexity.name), ("confidence", .float verdict.confidence.val),
    ("metrics", verdict.metrics.toJson),
    ("processing_time_ms", .float verdict.processingTime.val),
    ("suggestions", (verdict.suggestions.map Suggestions.toJson).getD .null)]

end Verdict

end CodeComplexity
