import CodeComplexity.Failure
import CodeComplexity.Source.Wire

/-!
# Input of calls

What the tools are given: a document, a place in a document, or a selection of a document.
Identifiers of documents are trimmed, and must then hold something and not be too long.
-/

namespace CodeComplexity

open Check Source Text

def uriLimit : Nat := 2048

/-- An identifier of a document. -/
def checkUri (value : Json) : Checked Uri :=
  (text value).andThen fun given =>
    let uri := trim isBlank given.points
    if uri.isEmpty then .refuse (.broken "uri must not be empty")
    else if uriLimit < uri.length then
      .refuse (.broken ("uri exceeds " ++ toString uriLimit ++ " characters"))
    else .valid ⟨uri⟩

structure DocumentInput where
  uri : Uri
  text : LooseText
  deriving DecidableEq, Repr

namespace DocumentInput

/-- The document that the members of an object describe. -/
def ofMembers (value : Json) : Checked DocumentInput :=
  DocumentInput.mk <$> required "uri" checkUri (value.get? "uri")
    <*> optional "text" Check.text (.ofString "") (value.get? "text")

/-- The members of a document's object. -/
def members (input : DocumentInput) : Json.Members :=
  [("uri", .ofLooseText input.uri), ("text", .ofLooseText input.text)]

end DocumentInput

structure HoverInput where
  document : DocumentInput
  position : Position
  deriving DecidableEq, Repr

namespace HoverInput

/-- The place that the members of an object describe. -/
def ofMembers (value : Json) : Checked HoverInput :=
  HoverInput.mk <$> DocumentInput.ofMembers value
    <*> Position.ofParts (value.get? "line") (value.get? "character")

/-- The members of a place's object. -/
def members (input : HoverInput) : Json.Members :=
  let place : Json.Members :=
    [("line", .int input.position.line), ("character", .int input.position.character)]
  input.document.members ++ place

end HoverInput

/-- The bounds of a selection.  Without a first line the whole document is selected. -/
structure Bounds where
  startLine : Option Nat
  startCharacter : Nat
  endLine : Option Nat
  endCharacter : Option Nat
  deriving DecidableEq, Repr

namespace Bounds

/-- Hold bounds to the order of their ends.  The ends are compared only if both lines are given, and
then an end character that is left out counts as the start character. -/
def check (bounds : Bounds) : Checked Bounds :=
  match bounds.startLine, bounds.endLine with
  | none, some _ => .refuse (.broken "end_line given without start_line")
  | some startLine, some endLine =>
    let start : Position := ⟨startLine, bounds.startCharacter⟩
    let stop : Position := ⟨endLine, bounds.endCharacter.getD bounds.startCharacter⟩
    if stop.Before start then .refuse (.broken "selection end precedes selection start")
    else .valid bounds
  | some _, none | none, none => .valid bounds

/-- The character that stands for the end of a line. -/
def lineEnd : Nat := 0x7FFFFFFF

/-- The selected range, or none for the whole document.  A selection without a last line ends on its
first one, and one without an end character reaches to the end of its last line. -/
def range (bounds : Bounds) : Checked (Option TextRange) :=
  match bounds.startLine with
  | none => .valid none
  | some startLine =>
    some <$> TextRange.ofEnds ⟨startLine, bounds.startCharacter⟩
      ⟨bounds.endLine.getD startLine, bounds.endCharacter.getD lineEnd⟩

end Bounds

/-- A selection of a document. -/
structure SelectionInput where
  document : DocumentInput
  bounds : Bounds
  deriving DecidableEq, Repr

namespace SelectionInput

/-- The selection that the members of an object describe. -/
def ofMembers (value : Json) : Checked SelectionInput :=
  (SelectionInput.mk <$> DocumentInput.ofMembers value <*>
    (Bounds.mk <$> optional "start_line" (nullable natural) none (value.get? "start_line")
      <*> optional "start_character" natural 0 (value.get? "start_character")
      <*> optional "end_line" (nullable natural) none (value.get? "end_line")
      <*> optional "end_character" (nullable natural) none (value.get? "end_character"))).andThen
  fun input => (fun bounds => { input with bounds }) <$> input.bounds.check

def numberOrNull : Option Nat → Json
  | none => .null
  | some number => .int number

/-- The members of a selection's object. -/
def members (input : SelectionInput) : Json.Members :=
  let bounds : Json.Members :=
    [("start_line", numberOrNull input.bounds.startLine),
      ("start_character", .int input.bounds.startCharacter),
      ("end_line", numberOrNull input.bounds.endLine),
      ("end_character", numberOrNull input.bounds.endCharacter)]
  input.document.members ++ bounds

end SelectionInput

namespace InputKind

/-- Accepted input, or the failure that the user is told about. -/
def accept {α : Type} (kind : InputKind) : Checked α → Except Fault α
  | .valid value => .ok value
  | .refused issues => .error (.failure (.invalidInput kind issues))

end InputKind

end CodeComplexity
