import CodeComplexity.Session.Course
import CodeComplexity.Simulation.World

/-!
# Sessions in time

Runs a session against a scripted classifier, and takes snapshots of what is to be seen of it.
-/

namespace CodeComplexity.Simulation

/-- A bound on the alarms of a session and those that they lead to: a hover that has waited may send
a request, whose reply is received and handed on, and a reply may set an alarm for each call that
waits for it. -/
def sessionLoad (session : Session) : Nat :=
  session.annotator.alarms.length + 4 * session.desk.settling.length
    + (session.desk.requests.flatMap OpenRequest.waiters).length

def sessionProgram : Program Session SessionAct where
  timeline := Session.timeline
  withTimeline := fun session timeline => { session with timeline }
  nextAlarm? := Session.nextAlarm?
  ring := fun session alarm => session.step (.ring alarm)
  request? := fun session act =>
    match act with
    | .classify code => some (session.service.analyzeRequest code)
    | .probe _ => some session.service.healthRequest
    | .finish _ _ => none
  receive := fun session act reply =>
    match act with
    | .classify code => session.step (.codeReply code reply)
    | .probe call => session.step (.healthReply call reply)
    | .finish _ _ => (session, [])
  handOn := fun session act =>
    match act with
    | .classify code => session.step (.handOn code)
    | .probe _ | .finish _ _ => (session, [])
  load := sessionLoad

/-- What is to be seen of a session. -/
structure Snapshot where
  /-- The calls that have ended since the last snapshot, in the order of their numbers. -/
  ended : List (Nat × Except Fault ToolResult)
  requests : List Request
  active : Option Uri
  pending : List Uri
  versions : List (Uri × Nat)
  markers : List (Uri × List Marker)
  openRequests : Nat
  cached : Nat

/-- The call that ends by an act. -/
def endedCall? : SessionAct → Option (Nat × Except Fault ToolResult)
  | .finish call outcome => some (call, outcome)
  | .classify _ | .probe _ => none

/-- What is to be seen of a session and of what it has done lately. -/
def snapshot (world : World Session SessionAct) : Snapshot :=
  let session := world.state
  let uris := sortedTexts (Keyed.keys session.documents)
  { ended := inCallOrder (world.acts.filterMap endedCall?)
    requests := world.requests
    active := session.annotator.active
    pending := uris.filter session.annotator.isPending
    versions := uris.map fun uri =>
      (uri, ((Keyed.get? session.documents uri).map Document.version).getD 0)
    markers := uris.map fun uri => (uri, session.board.markersOf uri)
    openRequests := session.desk.requests.length
    cached := session.desk.cache.size }

/-- What happens to a session from outside. -/
inductive SessionStep where
  | call (tool : Tool) (arguments : Json)
  | cancel (call : Nat)
  | advance (time : Int)

/-- Let a step happen.  Calls have the numbers of their steps. -/
def takeStep (world : World Session SessionAct) (number : Nat) : SessionStep →
    World Session SessionAct
  | .call tool arguments =>
    world.perform sessionProgram (world.state.step (.call number tool arguments))
  | .cancel call => world.perform sessionProgram (world.state.step (.cancel call))
  | .advance time => world.advance sessionProgram time

/-- The snapshots after each step, and one after the session was closed. -/
def snapshotsFrom (world : World Session SessionAct) (number : Nat) :
    List SessionStep → List Snapshot
  | [] => [snapshot { world.forgetRecord with state := world.state.close }]
  | step :: rest =>
    let after := takeStep world.forgetRecord number step
    snapshot after :: snapshotsFrom after (number + 1) rest

/-- The snapshots of a whole session, the first one after its start; none if it cannot start. -/
def runSession? (settings : Settings) (script : Script) (steps : List SessionStep) :
    Option (List Snapshot) :=
  (Session.start? settings).map fun (session, acts) =>
    let world := (World.start session script).perform sessionProgram (session, acts)
    snapshot world :: snapshotsFrom world 0 steps

end CodeComplexity.Simulation
