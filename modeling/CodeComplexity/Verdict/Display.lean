import CodeComplexity.Decimal.Fixed
import CodeComplexity.Source.Wire
import CodeComplexity.Verdict.Basic

/-!
# Verdicts on display

What is shown of a verdict: a marker in front of the function's first line, a popup under the
cursor, and a notification after an analysis that was asked for.
-/

namespace CodeComplexity

open Source

namespace Complexity

def icon : Complexity → String
  | simple => "✓"
  | moderate => "⚠️"
  | complex => "🔴"

def color : Complexity → String
  | simple => "#22c55e"
  | moderate => "#f59e0b"
  | complex => "#ef4444"

def heading (complexity : Complexity) : String :=
  complexity.name.map Char.toUpper

end Complexity

/-- A sign in front of a line of a document. -/
structure Marker where
  line : Nat
  complexity : Complexity
  deriving DecidableEq, Repr

namespace Marker

/-- The marker of a function with a verdict, on the function's first line. -/
def ofVerdict (span : FunctionSpan) (verdict : Verdict) : Marker :=
  ⟨span.startLine, verdict.complexity⟩

/-- What the marker shows. -/
def text (marker : Marker) : String :=
  " " ++ marker.complexity.icon ++ " " ++ marker.complexity.name

def range (marker : Marker) : TextRange :=
  .empty ⟨marker.line, 0⟩

def toJson (marker : Marker) : Json :=
  .obj [("range", marker.range.toJson), ("display_text", .str marker.text),
    ("color_hint", .str marker.complexity.color)]

end Marker

/-- A popup about the function under the cursor. -/
structure Popup where
  header : String
  metrics : Option String
  suggestion : Option Text.LooseText
  deriving DecidableEq, Repr

/-- A message that stays until it is dismissed. -/
structure Notification where
  level : String
  message : Text.LooseText
  actions : List String
  deriving DecidableEq, Repr

/-- The action that dismisses a notification. -/
def dismissAction : String := "Dismiss"

/-- The action that shows the suggestions. -/
def suggestionsAction : String := "View Suggestions"

/-- The confidence in percent, with a number of places behind the point. -/
def Confidence.percent (confidence : Confidence) (places : Nat) : String :=
  Decimal.fixedText places (confidence.val * 100) ++ "%"

/-- The metrics that are shown, with a separator between them. -/
def Metrics.summary (separator : String) (metrics : Metrics) : String :=
  separator.intercalate ["LOC: " ++ toString metrics.linesOfCode,
    "Cyclomatic: " ++ toString metrics.cyclomatic, "Nesting: " ++ toString metrics.nestingDepth]

namespace Verdict

/-- The popup for a verdict. -/
def popup (showMetrics : Bool) (verdict : Verdict) : Popup where
  header := "**" ++ verdict.complexity.icon ++ " " ++ verdict.complexity.heading ++ "** ("
    ++ verdict.confidence.percent 0 ++ " confident)"
  metrics := if showMetrics then some (verdict.metrics.summary " | ") else none
  suggestion := verdict.suggestionTexts.head?

/-- The notification for a verdict. -/
def notification (showMetrics : Bool) (verdict : Verdict) : Notification where
  level := "info"
  message := Text.LooseText.ofString <| verdict.complexity.icon ++ " Complexity: " ++
    verdict.complexity.heading
    ++ " (Confidence: " ++ verdict.confidence.percent 1 ++ ")"
    ++ (if showMetrics then "\n\n" ++ verdict.metrics.summary ", " else "")
  actions := (if verdict.suggestionTexts.isEmpty then [] else [suggestionsAction])
    ++ [dismissAction]

end Verdict

def textOrNull : Option String → Json
  | none => .null
  | some text => .str text

def Popup.toJson (popup : Popup) : Json :=
  .obj [("header_text", .str popup.header), ("metrics_line", textOrNull popup.metrics),
    ("first_suggestion", (popup.suggestion.map .ofLooseText).getD .null)]

def Notification.toJson (notification : Notification) : Json :=
  .obj [("level", .str notification.level), ("message", .ofLooseText notification.message),
    ("actions", .arr (notification.actions.map .str))]

end CodeComplexity
