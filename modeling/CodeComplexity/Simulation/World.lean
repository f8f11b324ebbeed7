import CodeComplexity.Alarm
import CodeComplexity.Simulation.Script

/-!
# Programs in time

A world runs a program in virtual time against scripted replies.  At one moment all alarms that are
due ring before a reply without delay is received, and all such replies are received before one is
handed on.  A reply with a delay comes in with the program's own alarms, in the order of their
moments, and is received at once.
-/

namespace CodeComplexity.Simulation

/-- A program that sets alarms and sends requests; what it does to the outside are its acts. -/
structure Program (σ ε : Type) where
  timeline : σ → Timeline
  withTimeline : σ → Timeline → σ
  /-- The alarm of the program that rings first. -/
  nextAlarm? : σ → Option Alarm
  ring : σ → Alarm → σ × List ε
  /-- The request of an act, if it has one, or why it cannot be sent. -/
  request? : σ → ε → Option (Except RequestFault Request)
  /-- The reply to the request of an act is received. -/
  receive : σ → ε → Reply → σ × List ε
  /-- The received reply to the request of an act is handed on. -/
  handOn : σ → ε → σ × List ε
  /-- A bound on what may still happen by itself. -/
  load : σ → Nat

/-- A reply that is under way. -/
structure Parcel (ε : Type) where
  alarm : Alarm
  act : ε
  reply : Reply

/-- A program, its classifier, and what has happened. -/
structure World (σ ε : Type) where
  state : σ
  script : Script
  underWay : List (Parcel ε)
  /-- Replies that have arrived but have not been received. -/
  arrived : List (ε × Reply)
  /-- The acts whose replies have been received but have not been handed on. -/
  received : List ε
  /-- The acts of the program, with the requests that they sent. -/
  record : List (ε × Option Request)

namespace World

variable {σ ε : Type}

def start (state : σ) (script : Script) : World σ ε :=
  ⟨state, script, [], [], [], []⟩

/-- A reply is sent: it arrives at once, or comes in when its alarm rings. -/
def dispatch (program : Program σ ε) (world : World σ ε) (act : ε) (delay : Int) (reply : Reply) :
    World σ ε :=
  if 0 < delay then
    let timeline := program.timeline world.state
    { world with
      underWay := world.underWay ++ [⟨timeline.alarmIn delay true, act, reply⟩]
      state := program.withTimeline world.state timeline.afterAlarm }
  else { world with arrived := world.arrived ++ [(act, reply)] }

/-- The program does something.  A request that cannot be sent is not recorded, and what comes back
from it arrives at once. -/
def act (program : Program σ ε) (world : World σ ε) (act : ε) : World σ ε :=
  match program.request? world.state act with
  | none => { world with record := world.record ++ [(act, none)] }
  | some (.error fault) =>
    { world with
      record := world.record ++ [(act, none)]
      arrived := world.arrived ++ [(act, .unsent fault)] }
  | some (.ok request) =>
    let ((delay, reply), script) := world.script.answer request
    { world with record := world.record ++ [(act, some request)], script }.dispatch program act
      delay reply

/-- The program has moved on and does something. -/
def follow (program : Program σ ε) (world : World σ ε) : σ × List ε → World σ ε
  | (state, acts) => acts.foldl (act program) { world with state }

/-- The program at a later moment. -/
def stateAt (program : Program σ ε) (world : World σ ε) (moment : Int) : σ :=
  program.withTimeline world.state ((program.timeline world.state).movedTo moment)

def nextAlarm? (program : Program σ ε) (world : World σ ε) : Option Alarm :=
  Alarm.earliest? ((program.nextAlarm? world.state).toList ++ world.underWay.map Parcel.alarm)

/-- The reply to the request of an act is received. -/
def receive (program : Program σ ε) (world : World σ ε) (act : ε) (reply : Reply) : World σ ε :=
  { world with received := world.received ++ [act] }.follow program
    (program.receive world.state act reply)

/-- An alarm rings: a reply is there, or the program has waited for the moment. -/
def ring (program : Program σ ε) (world : World σ ε) (alarm : Alarm) : World σ ε :=
  let present := { world with state := world.stateAt program alarm.due }
  match world.underWay.find? fun parcel => parcel.alarm = alarm with
  | some parcel =>
    { present with
      underWay := world.underWay.filter fun other => other.alarm ≠ alarm }.receive program
      parcel.act parcel.reply
  | none => present.follow program (program.ring present.state alarm)

def now (program : Program σ ε) (world : World σ ε) : Int :=
  (program.timeline world.state).now

/-- The alarm that rings first, if it is due by a moment. -/
def alarmBy? (program : Program σ ε) (world : World σ ε) (moment : Int) : Option Alarm :=
  (world.nextAlarm? program).filter fun alarm => alarm.due ≤ moment

/-- The next thing that happens by itself up to a moment. -/
def next? (program : Program σ ε) (world : World σ ε) (horizon : Int) : Option (World σ ε) :=
  match world.alarmBy? program (world.now program), world.arrived, world.received with
  | some alarm, _, _ => some (world.ring program alarm)
  | none, (act, reply) :: rest, _ =>
    some ({ world with arrived := rest }.receive program act reply)
  | none, [], act :: rest =>
    some ({ world with received := rest }.follow program (program.handOn world.state act))
  | none, [], [] => (world.alarmBy? program horizon).map (world.ring program)

/-- Everything that happens by itself up to a moment, in so many steps at most. -/
def runSteps (program : Program σ ε) (horizon : Int) : Nat → World σ ε → World σ ε
  | 0, world => { world with state := world.stateAt program horizon }
  | steps + 1, world =>
    match world.next? program horizon with
    | some after => runSteps program horizon steps after
    | none => { world with state := world.stateAt program horizon }

/-- A bound on the number of things that may still happen by themselves. -/
def load (program : Program σ ε) (world : World σ ε) : Nat :=
  program.load world.state + 2 * world.underWay.length + 2 * world.arrived.length
    + world.received.length

/-- Let time pass up to a moment. -/
def run (program : Program σ ε) (horizon : Int) (world : World σ ε) : World σ ε :=
  runSteps program horizon (world.load program) world

/-- Let some time pass. -/
def advance (program : Program σ ε) (world : World σ ε) (time : Int) : World σ ε :=
  world.run program (world.now program + time)

/-- The program has moved on, and everything happens that can happen at the same moment. -/
def perform (program : Program σ ε) (world : World σ ε) (change : σ × List ε) : World σ ε :=
  (world.follow program change).advance program 0

/-- The same world with an empty record. -/
def forgetRecord (world : World σ ε) : World σ ε :=
  { world with record := [] }

def acts (world : World σ ε) : List ε :=
  world.record.map Prod.fst

def requests (world : World σ ε) : List Request :=
  world.record.filterMap Prod.snd

end World

/-- Outcomes of calls in the order of the calls. -/
def inCallOrder {α : Type} (outcomes : List (Nat × α)) : List (Nat × α) :=
  outcomes.mergeSort fun first second => first.1 ≤ second.1

end CodeComplexity.Simulation
