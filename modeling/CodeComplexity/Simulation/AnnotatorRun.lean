import CodeComplexity.Failure
import CodeComplexity.Marking.Annotator
import CodeComplexity.Simulation.World

/-!
# The annotator by itself

Runs an annotator with its cache and its documents, and records what it draws.  The clock that tells
the age of verdicts can be put out of order.
-/

namespace CodeComplexity.Simulation

/-- An annotator with what it works with. -/
structure AnnotatorRun where
  timeline : Timeline
  clockWorks : Bool
  documents : Documents
  canvas : Canvas

/-- What is done with an annotator, its documents and its cache. -/
inductive AnnotatorStep where
  | put (code : String) (verdict : Verdict)
  | clearCache
  | setClock (works : Bool)
  | openDocument (uri : Uri) (text : Text.LooseText)
  | updateDocument (uri : Uri) (text : Text.LooseText)
  | closeDocument (uri : Uri)
  | judge (text : Text.LooseText)
  | toggle
  | setEnabled (enabled : Bool)
  | shutdown
  | activate (uri : Uri)
  | change (uri : Uri)
  | closeView (uri : Uri)
  | pass (uri : Uri)
  | advance (time : Int)

/-- What a step gives back. -/
inductive AnnotatorAnswer where
  | nothing
  | version (number : Nat)
  | enabled (isEnabled : Bool)
  | drawn (count : Nat)
  | judged (functions : List JudgedFunction)

namespace AnnotatorRun

def start (delay : Int) (enabled : Bool) (cache : Cache) : AnnotatorRun :=
  ⟨.start, true, [], ⟨.start delay enabled, cache⟩⟩

def clock (run : AnnotatorRun) : ClockReading :=
  if run.clockWorks then some run.timeline.now else none

def withAnnotator (run : AnnotatorRun) (annotator : Annotator) : AnnotatorRun :=
  { run with canvas := { run.canvas with annotator } }

/-- The run with another annotator, which may have set an alarm. -/
def armed (run : AnnotatorRun) (annotator : Annotator) : AnnotatorRun :=
  { run.withAnnotator annotator with timeline := run.timeline.afterAlarm }

def withCache (run : AnnotatorRun) (cache : Cache) : AnnotatorRun :=
  { run with canvas := { run.canvas with cache } }

def painted (run : AnnotatorRun) : Canvas × List Redraw → AnnotatorRun × List Redraw
  | (canvas, redraws) => ({ run with canvas }, redraws)

def versionOf (documents : Documents) (uri : Uri) : AnnotatorAnswer :=
  match Keyed.get? documents uri with
  | some document => .version document.version
  | none => .nothing

/-- What a step does, apart from the passing of time, and what it gives back. -/
def take (run : AnnotatorRun) :
    AnnotatorStep → (AnnotatorRun × List Redraw) × Except Fault AnnotatorAnswer
  | .put code verdict =>
    match run.clock with
    | some now => ((run.withCache (run.canvas.cache.put now code verdict), []), .ok .nothing)
    | none => ((run, []), .error (.ofLook .clockless))
  | .clearCache => ((run.withCache run.canvas.cache.clear, []), .ok .nothing)
  | .setClock works => (({ run with clockWorks := works }, []), .ok .nothing)
  | .openDocument uri text =>
    let documents := run.documents.openWith uri text
    (({ run with documents }, []), .ok (versionOf documents uri))
  | .updateDocument uri text =>
    match run.documents.update? uri text with
    | some documents => (({ run with documents }, []), .ok (versionOf documents uri))
    | none => ((run, []), .error (.failure (.documentNotOpen uri)))
  | .closeDocument uri => (({ run with documents := run.documents.close uri }, []), .ok .nothing)
  | .judge text =>
    let (judged, cache) := judge run.clock text run.canvas.cache
    ((run.withCache cache, []), (judged.mapError Fault.ofLook).map .judged)
  | .toggle =>
    let enabled := !run.canvas.annotator.enabled
    (run.painted (run.canvas.setEnabled run.clock run.documents enabled), .ok (.enabled enabled))
  | .setEnabled enabled =>
    (run.painted (run.canvas.setEnabled run.clock run.documents enabled), .ok .nothing)
  | .shutdown => ((run.withAnnotator run.canvas.annotator.shutdown, []), .ok .nothing)
  | .activate uri =>
    ((run.armed (run.canvas.annotator.activate run.timeline uri), []), .ok .nothing)
  | .change uri => ((run.armed (run.canvas.annotator.change run.timeline uri), []), .ok .nothing)
  | .closeView uri =>
    let (annotator, redraws) := run.canvas.annotator.close uri
    ((run.withAnnotator annotator, redraws), .ok .nothing)
  | .pass uri =>
    let (canvas, redraws) := run.canvas.pass run.clock run.documents uri
    (run.painted (canvas, redraws), .ok (.drawn (redraws.flatMap Redraw.markers).length))
  | .advance _ => ((run, []), .ok .nothing)

/-- The annotator as a program: it sends no requests. -/
def program : Program AnnotatorRun Redraw where
  timeline := AnnotatorRun.timeline
  withTimeline := fun run timeline => { run with timeline }
  nextAlarm? := fun run => run.canvas.annotator.nextAlarm?
  ring := fun run alarm => run.painted (run.canvas.ring run.clock run.documents alarm)
  request? := fun _ _ => none
  receive := fun run _ _ => (run, [])
  handOn := fun run _ => (run, [])
  load := fun run => run.canvas.annotator.alarms.length

/-- Let a step happen, and everything that follows from it by itself. -/
def stepIn (world : World AnnotatorRun Redraw) (step : AnnotatorStep) :
    World AnnotatorRun Redraw × Except Fault AnnotatorAnswer :=
  match step with
  | .advance time => (world.advance program time, .ok .nothing)
  | _ =>
    let (change, answer) := world.state.take step
    (world.perform program change, answer)

end AnnotatorRun

end CodeComplexity.Simulation
