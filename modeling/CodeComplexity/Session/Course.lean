import CodeComplexity.Session.Tools

/-!
# The course of a session

What happens to a session: tools are called, alarms ring, replies arrive, and calls are cancelled,
in any order.  `Session.step` is one such event, and everything that a session does is done in one
of them.  In the end the session is closed.
-/

namespace CodeComplexity

/-- Something that happens to a session. -/
inductive SessionEvent where
  | call (number : Nat) (tool : Tool) (arguments : Json)
  | cancel (number : Nat)
  | ring (alarm : Alarm)
  | codeReply (code : String) (reply : Reply)
  /-- The reply about a piece of code gets to those who wait for it. -/
  | handOn (code : String)
  | healthReply (call : Option Nat) (reply : Reply)
  /-- Time passes up to a moment. -/
  | wait (moment : Int)
  /-- Someone else sets an alarm. -/
  | alarmElsewhere

namespace Session

def nextAlarm? (session : Session) : Option Alarm :=
  Alarm.earliest? (session.annotator.nextAlarm?.toList ++ session.desk.nextAlarm?.toList)

/-- An alarm rings: a hover has waited long enough, or a document is drawn. -/
def ring (session : Session) (alarm : Alarm) : Session × List SessionAct :=
  if session.desk.owns alarm then session.atDesk (session.desk.ring session.timeline.now alarm)
  else
    (session.paint (session.canvas.ring (some session.timeline.now) session.documents alarm), [])

/-- The reply about a piece of code arrives. -/
def codeReply (session : Session) (code : String) (reply : Reply) : Session :=
  { session with
    desk := session.desk.receive session.timeline.now code (session.service.verdictOf reply) }

/-- The reply whether the classifier is up arrives.  The call that asked may be gone by then. -/
def healthReply (session : Session) (call : Option Nat) (reply : Reply) :
    Session × List SessionAct :=
  match call with
  | none => (session, [])
  | some call =>
    if session.probing.contains call then
      ({ session with probing := session.probing.erase call },
        [.finish call (.ok (.health (session.service.isHealthy reply) session.service.endpoint))])
    else (session, [])

/-- A call is cancelled, if it still waits for something. -/
def cancel (session : Session) (call : Nat) : Session × List SessionAct :=
  if session.probing.contains call then
    ({ session with probing := session.probing.erase call }, [.finish call (.error .cancelled)])
  else session.atDesk (session.desk.withdraw fun caller => caller.call = call)

def movedTo (session : Session) (moment : Int) : Session :=
  { session with timeline := session.timeline.movedTo moment }

/-- Something happens to a session. -/
def step (session : Session) : SessionEvent → Session × List SessionAct
  | .call number tool arguments => session.callTool number tool arguments
  | .cancel number => session.cancel number
  | .ring alarm => session.ring alarm
  | .codeReply code reply => (session.codeReply code reply, [])
  | .handOn code => session.atDesk (session.desk.handOn code)
  | .healthReply call reply => session.healthReply call reply
  | .wait moment => (session.movedTo moment, [])
  | .alarmElsewhere => (session.afterAlarm, [])

/-- The session is closed: no alarm rings any more, and nothing stays in the cache. -/
def close (session : Session) : Session :=
  { session with
    annotator := session.annotator.shutdown
    desk := session.desk.clearCache }

end Session

end CodeComplexity
