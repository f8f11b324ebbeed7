import CodeComplexity.Marking.Judged
import CodeComplexity.Document.Store
import CodeComplexity.Verdict.Display
import CodeComplexity.Verdict.Wire

/-!
# Results of tools

What the tools of a session give back, and how it is written.
-/

namespace CodeComplexity

open Source

/-- What a tool gives back. -/
inductive ToolResult where
  | opened (uri : Uri) (version : Nat) (enabled : Bool)
  | updated (uri : Uri) (version : Nat) (pending : Bool)
  | closed (uri : Uri)
  /-- The function under the cursor, if there is one with a verdict. -/
  | hovered (uri : Uri) (found : Option (FunctionSpan × Popup))
  | analyzed (uri : Uri) (notification : Notification) (verdict : Verdict)
  | toggled (enabled : Bool)
  | markers (uri : Uri) (enabled : Bool) (markers : List Marker)
  | report (uri : Uri) (tally : Tally)
  | health (healthy : Bool) (endpoint : Text.LooseText)

namespace ToolResult

/-- What is said when annotations are turned on or off. -/
def toggleMessage (enabled : Bool) : String :=
  "Inline analysis " ++ (if enabled then "enabled" else "disabled")

def stateName (pending : Bool) : String :=
  if pending then "pending" else "idle"

/-- The function under the cursor, or nulls. -/
def hoverMembers : Option (FunctionSpan × Popup) → Json.Members
  | none => [("start_line", .null), ("end_line", .null), ("hover", .null)]
  | some (span, popup) =>
    [("start_line", .int span.startLine), ("end_line", .int span.endLine), ("hover", popup.toJson)]

def toJson : ToolResult → Json
  | opened uri version enabled =>
    .obj [("uri", .ofLooseText uri), ("version", .int version),
      ("annotations_enabled", .bool enabled)]
  | updated uri version pending =>
    .obj [("uri", .ofLooseText uri), ("version", .int version),
      ("annotation_state", .str (stateName pending))]
  | closed uri => .obj [("uri", .ofLooseText uri), ("closed", .bool true)]
  | hovered uri found => .obj (("uri", .ofLooseText uri) :: hoverMembers found)
  | analyzed uri notification verdict =>
    .obj [("uri", .ofLooseText uri), ("notification", notification.toJson),
      ("verdict", verdict.toJson), ("suggestions", .arr (verdict.suggestionTexts.map .ofLooseText))]
  | toggled enabled =>
    .obj [("enabled", .bool enabled), ("message", .str (toggleMessage enabled))]
  | markers uri enabled drawn =>
    .obj [("uri", .ofLooseText uri), ("enabled", .bool enabled),
      ("markers", .arr (drawn.map Marker.toJson))]
  | report uri tally =>
    .obj [("uri", .ofLooseText uri), ("function_count", .int tally.total),
      ("simple", .int tally.simple), ("moderate", .int tally.moderate),
      ("complex", .int tally.complex), ("unanalysed", .int tally.unanalysed)]
  | health healthy endpoint =>
    .obj [("healthy", .bool healthy), ("endpoint", .ofLooseText endpoint)]

end ToolResult

end CodeComplexity
