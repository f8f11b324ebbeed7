import CodeComplexity.Session.Basic
import CodeComplexity.Session.Input

/-!
# The tools of a session

What can be called.  A tool first checks what it was given and then, where it needs one, that the
document is open; a call that is refused leaves the session as it was.  Most tools end at once, a
hover or an analysis may have to wait for the classifier.
-/

namespace CodeComplexity

/-- The tools of a session. -/
inductive Tool where
  | openDocument
  | updateDocument
  | closeDocument
  | hover
  | analyzeSelection
  | toggleAnnotations
  | getAnnotations
  | complexityReport
  | checkHealth
  deriving DecidableEq, Repr

namespace Tool

def name : Tool → String
  | openDocument => "open_document"
  | updateDocument => "update_document"
  | closeDocument => "close_document"
  | hover => "hover"
  | analyzeSelection => "analyze_selection"
  | toggleAnnotations => "toggle_inline_annotations"
  | getAnnotations => "get_annotations"
  | complexityReport => "complexity_report"
  | checkHealth => "check_classifier_health"

def all : List Tool :=
  [openDocument, updateDocument, closeDocument, hover, analyzeSelection, toggleAnnotations,
    getAnnotations, complexityReport, checkHealth]

def ofName? (wanted : String) : Option Tool :=
  all.find? fun tool => tool.name = wanted

end Tool

namespace Session

/-- The open document with an identifier. -/
def require (session : Session) (uri : Uri) : Except Fault Document :=
  match Keyed.get? session.documents uri with
  | some document => .ok document
  | none => .error (.failure (.documentNotOpen uri))

/-- Open a document and bring it into view. -/
def openDocument (session : Session) (arguments : Json) : Except Fault (Session × ToolResult) := do
  let input ← InputKind.document.accept (DocumentInput.ofMembers arguments)
  let opened := { session with
    documents := session.documents.openWith input.uri input.text
    annotator := session.annotator.activate session.timeline input.uri }
  pure (opened.afterAlarm, .opened input.uri 1 opened.annotator.enabled)

def updateDocument (session : Session) (arguments : Json) :
    Except Fault (Session × ToolResult) := do
  let input ← InputKind.document.accept (DocumentInput.ofMembers arguments)
  let document ← session.require input.uri
  let revised := Documents.revised document input.text
  let updated :=
    { session with documents := Keyed.set input.uri revised session.documents }.noteChange input.uri
  pure (updated, .updated input.uri revised.version (updated.annotator.isPending input.uri))

/-- Close an open document and drop its markers. -/
def closeDocument (session : Session) (arguments : Json) :
    Except Fault (Session × ToolResult) := do
  let input ← InputKind.document.accept (DocumentInput.ofMembers arguments)
  let _ ← session.require input.uri
  let (annotator, redraws) := session.annotator.close input.uri
  pure ({ session with
    annotator
    board := redraws.foldl Board.redraw session.board
    desk := session.desk.forget input.uri
    documents := session.documents.close input.uri }, .closed input.uri)

def toggleAnnotations (session : Session) : Session × ToolResult :=
  let enabled := !session.annotator.enabled
  (session.paint (session.canvas.setEnabled (some session.timeline.now) session.documents enabled),
    .toggled enabled)

def getAnnotations (session : Session) (arguments : Json) :
    Except Fault (Session × ToolResult) := do
  let input ← InputKind.document.accept (DocumentInput.ofMembers arguments)
  let _ ← session.require input.uri
  pure (session,
    .markers input.uri session.annotator.enabled (session.board.markersOf input.uri))

/-- The tally of the functions of an open document, unless one of them cannot be looked up. -/
def complexityReport (session : Session) (arguments : Json) :
    Except Fault (Session × Except Fault ToolResult) := do
  let input ← InputKind.document.accept (DocumentInput.ofMembers arguments)
  let document ← session.require input.uri
  let (tally, cache) := Tally.ofText (some session.timeline.now) document.text session.desk.cache
  pure ({ session with desk := { session.desk with cache } },
    (tally.mapError Fault.ofLook).map (.report input.uri))

/-- The verdict on the function under the cursor. -/
def hover (session : Session) (call : Nat) (arguments : Json) :
    Except Fault (Session × List SessionAct) := do
  let input ← InputKind.hover.accept (HoverInput.ofMembers arguments)
  let document ← session.require input.document.uri
  let uri := input.document.uri
  pure (session.afterAlarm.atDesk
    (session.desk.hover session.timeline ⟨call, uri⟩ uri document.text input.position))

/-- The verdict on a selection. -/
def analyzeSelection (session : Session) (call : Nat) (arguments : Json) :
    Except Fault (Session × List SessionAct) := do
  let input ← InputKind.selection.accept (SelectionInput.ofMembers arguments)
  let document ← session.require input.document.uri
  match input.bounds.range.titled "TextRange" with
  | .error refusal => .error (.refused refusal)
  | .ok range =>
    pure (session.atDesk (session.desk.analyzeSelection session.timeline.now
      ⟨call, input.document.uri⟩ document.text range))

def checkHealth (session : Session) (call : Nat) : Session × List SessionAct :=
  ({ session with probing := session.probing ++ [call] }, [.probe (some call)])

/-- A call that ends at once. -/
def ended (call : Nat) : Session × ToolResult → Session × List SessionAct
  | (session, result) => (session, [.finish call (.ok result)])

/-- What a tool does, unless it refuses the call. -/
def perform (session : Session) (call : Nat) (arguments : Json) :
    Tool → Except Fault (Session × List SessionAct)
  | .openDocument => (session.openDocument arguments).map (ended call)
  | .updateDocument => (session.updateDocument arguments).map (ended call)
  | .closeDocument => (session.closeDocument arguments).map (ended call)
  | .hover => session.hover call arguments
  | .analyzeSelection => session.analyzeSelection call arguments
  | .toggleAnnotations => .ok (ended call session.toggleAnnotations)
  | .getAnnotations => (session.getAnnotations arguments).map (ended call)
  | .complexityReport =>
    (session.complexityReport arguments).map fun (left, outcome) => (left, [.finish call outcome])
  | .checkHealth => .ok (session.checkHealth call)

/-- Call a tool. -/
def callTool (session : Session) (call : Nat) (tool : Tool) (arguments : Json) :
    Session × List SessionAct :=
  match session.perform call arguments tool with
  | .ok result => result
  | .error fault => (session, [.finish call (.error fault)])

end Session

end CodeComplexity
