import CodeComplexity.Analysis.Desk
import CodeComplexity.Marking.Annotator
import CodeComplexity.Classifier.Reply
import CodeComplexity.Session.Result
import CodeComplexity.Settings.Limits

/-!
# Sessions

The state of a running session: the open documents, the analysis desk with its cache, the annotator
and the markers that are to be seen.  What a session does to the outside is a list of acts: requests
that it sends to the classifier, and calls that come to an end.
-/

namespace CodeComplexity

/-- A call that waits at the desk, and the document that it is about. -/
structure Caller where
  call : Nat
  uri : Uri
  deriving DecidableEq, Repr

/-- What a session does to the outside. -/
inductive SessionAct where
  /-- Send code to the classifier. -/
  | classify (code : String)
  /-- Ask whether the classifier is up; without a call it is the session itself that asks. -/
  | probe (call : Option Nat)
  /-- A call ends. -/
  | finish (call : Nat) (outcome : Except Fault ToolResult)

/-- The state of a session. -/
structure Session where
  settings : Settings
  timeline : Timeline
  documents : Documents
  desk : Desk Caller
  annotator : Annotator
  board : Board
  /-- The calls that wait to hear whether the classifier is up. -/
  probing : List Nat

namespace Session

/-- How long nothing may change before markers are drawn: half a second. -/
def drawDelay : Int := 500000

/-- A session at its start, if its settings are not too large to be carried out. -/
def start? (settings : Settings) : Option (Session × List SessionAct) :=
  match settings.cache.secondsToLive?, settings.annotations.delay? with
  | some seconds, some delay =>
    let cache := Cache.empty (seconds * 1000000) settings.cache.capacity
    some (⟨settings, .start, [], .start delay cache,
      .start drawDelay settings.annotations.enabled, [], []⟩, [.probe none])
  | _, _ => none

def service (session : Session) : Service :=
  session.settings.classifier.service

def showMetrics (session : Session) : Bool :=
  session.settings.annotations.showMetrics

def afterAlarm (session : Session) : Session :=
  { session with timeline := session.timeline.afterAlarm }

/-- What a pass of the annotator works with. -/
def canvas (session : Session) : Canvas :=
  ⟨session.annotator, session.desk.cache⟩

/-- The session after a pass of the annotator. -/
def paint (session : Session) : Canvas × List Redraw → Session
  | (canvas, redraws) =>
    { session with
      annotator := canvas.annotator
      desk := { session.desk with cache := canvas.cache }
      board := redraws.foldl Board.redraw session.board }

/-- A document has changed, or a verdict for it has come. -/
def noteChange (session : Session) (uri : Uri) : Session :=
  { session with annotator := session.annotator.change session.timeline uri }.afterAlarm

/-- A waiting call gets what the desk found for it.  A verdict on a selection also sets the alarm
for the markers of its document. -/
def finish (session : Session) (caller : Caller) : Except Fault Finding → Session × SessionAct
  | .ok (.verdict verdict) =>
    (session.noteChange caller.uri, .finish caller.call (.ok (.analyzed caller.uri
      (verdict.notification session.showMetrics) verdict)))
  | .ok (.function found) =>
    (session, .finish caller.call (.ok (.hovered caller.uri (found.map fun judged =>
      (judged.span, judged.verdict.popup session.showMetrics)))))
  | .error fault => (session, .finish caller.call (.error fault))

/-- Carry out what the desk does. -/
def carryOut (session : Session) : List (DeskAct Caller) → Session × List SessionAct
  | [] => (session, [])
  | .ask code :: rest =>
    let (left, acts) := session.carryOut rest
    (left, .classify code :: acts)
  | .give caller finding :: rest =>
    let (after, act) := session.finish caller finding
    let (left, acts) := after.carryOut rest
    (left, act :: acts)

/-- The session after the desk has done something. -/
def atDesk (session : Session) : Desk Caller × List (DeskAct Caller) → Session × List SessionAct
  | (desk, acts) => { session with desk }.carryOut acts

end Session

end CodeComplexity
