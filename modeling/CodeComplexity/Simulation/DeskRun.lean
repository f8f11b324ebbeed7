import CodeComplexity.Analysis.Course
import CodeComplexity.Classifier.Reply
import CodeComplexity.Simulation.World

/-!
# The desk by itself

Runs an analysis desk whose callers are numbered, against a scripted classifier, and takes snapshots
of what is to be seen of it.
-/

namespace CodeComplexity.Simulation

open Source Text

/-- A desk, its time, and the classifier that it asks. -/
structure DeskRun where
  timeline : Timeline
  service : Service
  desk : Desk Nat

inductive DeskStep where
  | analyzeCode (code : LooseText)
  | analyzeAt (text : LooseText) (position : Position)
  | analyzeSelection (text : LooseText) (range : Option TextRange)
  | hover (uri : Uri) (text : LooseText) (position : Position)
  | put (code : String) (verdict : Verdict)
  | clearCache
  | forget (uri : Uri)
  | cancel (call : Nat)
  | advance (time : Int)
  /-- A call whose input is refused. -/
  | refused (fault : Fault)

/-- The outcome of a call; calls that only change something end without a finding. -/
abbrev DeskOutcome := Except Fault (Option Finding)

namespace DeskStep

/-- The outcome of a call that ends as soon as it is made, whatever the state of the desk. -/
def outcomeAtOnce? : DeskStep → Option DeskOutcome
  | .put _ _ | .clearCache | .forget _ => some (.ok none)
  | .refused fault => some (.error fault)
  | .analyzeCode _ | .analyzeAt _ _ | .analyzeSelection _ _ | .hover _ _ _ | .cancel _
  | .advance _ => none

/-- What a step means to the desk, if it means anything. -/
def event? (call : Nat) : DeskStep → Option (DeskEvent Nat)
  | .analyzeCode code => some (.analyzeCode call code)
  | .analyzeAt text position => some (.analyzeAt call text position)
  | .analyzeSelection text range => some (.analyzeSelection call text range)
  | .hover uri text position => some (.hover call uri text position)
  | .put code verdict => some (.put code verdict)
  | .clearCache => some .clearCache
  | .forget uri => some (.forget uri)
  | .cancel other => some (.withdraw fun caller => caller = other)
  | .advance _ | .refused _ => none

end DeskStep

namespace DeskRun

def start (service : Service) (hoverDelay : Int) (cache : Cache) : DeskRun :=
  ⟨.start, service, .start hoverDelay cache⟩

/-- Something happens to the desk, which may set an alarm. -/
def step (run : DeskRun) (event : DeskEvent Nat) : DeskRun × List (DeskAct Nat) :=
  let (desk, acts) := run.desk.step run.timeline event
  ({ run with desk, timeline := run.timeline.afterAlarm }, acts)

def program : Program DeskRun (DeskAct Nat) where
  timeline := DeskRun.timeline
  withTimeline := fun run timeline => { run with timeline }
  nextAlarm? := fun run => run.desk.nextAlarm?
  ring := fun run alarm => run.step (.ring alarm)
  request? := fun run act =>
    match act with
    | .ask code => some (run.service.analyzeRequest code)
    | .give _ _ => none
  receive := fun run act reply =>
    match act with
    | .ask code => run.step (.receive code (run.service.verdictOf reply))
    | .give _ _ => (run, [])
  handOn := fun run act =>
    match act with
    | .ask code => run.step (.handOn code)
    | .give _ _ => (run, [])
  load := fun run => 3 * run.desk.settling.length

/-- What a step does to the run, apart from the passing of time. -/
def take (run : DeskRun) (call : Nat) (step : DeskStep) : DeskRun × List (DeskAct Nat) :=
  match step.event? call with
  | some event => run.step event
  | none => (run, [])

/-- Let a step happen, and everything that follows from it by itself. -/
def stepIn (world : World DeskRun (DeskAct Nat)) (call : Nat) (step : DeskStep) :
    World DeskRun (DeskAct Nat) :=
  match step with
  | .advance time => world.advance program time
  | _ => world.perform program (world.state.take call step)

end DeskRun

/-- What is to be seen of a desk. -/
structure DeskSnapshot where
  /-- The calls that have ended since the last snapshot, in the order of their numbers. -/
  ended : List (Nat × DeskOutcome)
  requests : List Request
  openRequests : Nat
  cached : Nat

namespace DeskSnapshot

/-- The call that ends by an act. -/
def endedCall? : DeskAct Nat → Option (Nat × DeskOutcome)
  | .give caller finding => some (caller, finding.map some)
  | .ask _ => none

/-- What is to be seen after a step. -/
def after (call : Nat) (step : DeskStep) (world : World DeskRun (DeskAct Nat)) : DeskSnapshot where
  ended := inCallOrder (step.outcomeAtOnce?.toList.map (fun outcome => (call, outcome))
    ++ world.acts.filterMap endedCall?)
  requests := world.requests
  openRequests := world.state.desk.requests.length
  cached := world.state.desk.cache.size

/-- The snapshots after each step.  Calls have the numbers of their steps. -/
def ofSteps (world : World DeskRun (DeskAct Nat)) (call : Nat) : List DeskStep → List DeskSnapshot
  | [] => []
  | step :: rest =>
    let later := DeskRun.stepIn world.forgetRecord call step
    after call step later :: ofSteps later (call + 1) rest

end DeskSnapshot

end CodeComplexity.Simulation
