import CodeComplexity.Proofs.Session.Outcome
import CodeComplexity.Simulation.SessionRun

/-!
# Sessions in virtual time

A session that is run against a scripted classifier does nothing that it could not do otherwise:
whatever happens in its world is an event of the session, and the alarms of replies that are under
way are set by someone else.  So every snapshot shows a session in the course of time, and what is
recorded is what the session did.
-/

namespace CodeComplexity

open Simulation

namespace Session

variable {world before middle after : World Session SessionAct} {moments later : List SessionMoment}
  {horizon : Int}

/-- A world goes on by some moments of its session, and records what is done. -/
structure Plays (before : World Session SessionAct) (moments : List SessionMoment)
    (after : World Session SessionAct) : Prop where
  course : Course process before.state moments after.state
  record : after.acts = before.acts ++ moments.flatMap Moment.acts

theorem Plays.refl (world : World Session SessionAct) : Plays world [] world :=
  ⟨.start, (List.append_nil _).symm⟩

theorem Plays.trans (first : Plays before moments middle) (second : Plays middle later after) :
    Plays before (moments ++ later) after := by
  constructor
  · exact first.course.append second.course
  · rw [second.record, first.record, List.flatMap_append, List.append_assoc]

/-- Only the session and the record matter. -/
theorem Plays.of_same {other : World Session SessionAct} (plays : Plays other moments after)
    (state : other.state = before.state) (record : other.record = before.record) :
    Plays before moments after := by
  constructor
  · rw [← state]
    exact plays.course
  · rw [World.acts, World.acts, ← record]
    exact plays.record

/-! ## Acts -/

/-- Acts are recorded, and the session does nothing meanwhile. -/
def Records (before : World Session SessionAct) (acts : List SessionAct)
    (after : World Session SessionAct) : Prop :=
  ∃ moments, Course process before.state moments after.state ∧
    moments.flatMap Moment.acts = [] ∧ after.acts = before.acts ++ acts

theorem Records.trans {acts rest : List SessionAct} (first : Records before acts middle)
    (second : Records middle rest after) : Records before (acts ++ rest) after := by
  obtain ⟨moments, course, silent, recorded⟩ := first
  obtain ⟨later, onward, stillSilent, added⟩ := second
  refine ⟨moments ++ later, course.append onward, ?_, ?_⟩
  · rw [List.flatMap_append, silent, stillSilent]
    rfl
  · rw [added, recorded, List.append_assoc]

/-- A reply that is under way has its alarm set. -/
theorem records_dispatch (world : World Session SessionAct) (act : SessionAct) (delay : Int)
    (reply : Reply) : Records world [] (world.dispatch sessionProgram act delay reply) := by
  rw [World.dispatch]
  split
  · have set : process.may world.state .alarmElsewhere := trivial
    exact ⟨_, Course.next SessionEvent.alarmElsewhere .start set, rfl, (List.append_nil _).symm⟩
  · exact ⟨[], .start, rfl, (List.append_nil _).symm⟩

theorem records_act (world : World Session SessionAct) (act : SessionAct) :
    Records world [act] (world.act sessionProgram act) := by
  rw [World.act]
  split
  · exact ⟨[], .start, rfl, by simp [World.acts]⟩
  · exact ⟨[], .start, rfl, by simp [World.acts]⟩
  · next request _ =>
    have recorded : Records world [act]
        { world with
          record := world.record ++ [(act, some request)]
          script := (world.script.answer request).2 } :=
      ⟨[], .start, rfl, by simp [World.acts]⟩
    exact recorded.trans (records_dispatch _ _ _ _)

theorem records_foldl (world : World Session SessionAct) (acts : List SessionAct) :
    Records world acts (acts.foldl (World.act sessionProgram) world) := by
  induction acts generalizing world with
  | nil => exact ⟨[], .start, rfl, (List.append_nil _).symm⟩
  | cons act rest ih => exact (records_act world act).trans (ih _)

/-! ## What happens in a world -/

theorem plays_follow (world : World Session SessionAct) (event : SessionEvent) :
    ∃ moments, Plays world moments (world.follow sessionProgram (world.state.step event)) := by
  obtain ⟨moments, course, silent, recorded⟩ :=
    records_foldl { world with state := (world.state.step event).1 } (world.state.step event).2
  have happens : process.may world.state event := trivial
  refine ⟨[process.moment world.state event] ++ moments, ?_, ?_⟩
  · exact (Course.next event .start happens).append course
  · rw [List.flatMap_append, silent, List.append_nil, List.flatMap_singleton]
    exact recorded

theorem plays_wait (world : World Session SessionAct) (moment : Int) :
    ∃ moments, Plays world moments { world with state := world.stateAt sessionProgram moment } := by
  have passes : process.may world.state (.wait moment) := trivial
  exact ⟨_, Course.next (SessionEvent.wait moment) .start passes, (List.append_nil _).symm⟩

theorem plays_receive (world : World Session SessionAct) (act : SessionAct) (reply : Reply) :
    ∃ moments, Plays world moments (world.receive sessionProgram act reply) := by
  have noted : ∃ moments, Plays { world with received := world.received ++ [act] } moments
      (world.receive sessionProgram act reply) := by
    cases act with
    | classify code => exact plays_follow _ (.codeReply code reply)
    | probe call => exact plays_follow _ (.healthReply call reply)
    | finish call outcome => exact ⟨[], Plays.refl _⟩
  obtain ⟨moments, plays⟩ := noted
  exact ⟨moments, plays.of_same rfl rfl⟩

theorem plays_handOn (world : World Session SessionAct) (act : SessionAct) :
    ∃ moments, Plays world moments
      (world.follow sessionProgram (sessionProgram.handOn world.state act)) := by
  cases act with
  | classify code => exact plays_follow world (.handOn code)
  | probe call => exact ⟨[], Plays.refl world⟩
  | finish call outcome => exact ⟨[], Plays.refl world⟩

theorem plays_ring (world : World Session SessionAct) (alarm : Alarm) :
    ∃ moments, Plays world moments (world.ring sessionProgram alarm) := by
  obtain ⟨waited, waiting⟩ := plays_wait world alarm.due
  rw [World.ring]
  split
  · next parcel _ =>
    obtain ⟨moments, ringing⟩ := plays_receive
      { world with
        state := world.stateAt sessionProgram alarm.due
        underWay := world.underWay.filter fun other => other.alarm ≠ alarm } parcel.act parcel.reply
    exact ⟨_, waiting.trans (ringing.of_same rfl rfl)⟩
  · obtain ⟨moments, ringing⟩ := plays_follow
      { world with state := world.stateAt sessionProgram alarm.due } (.ring alarm)
    exact ⟨_, waiting.trans ringing⟩

theorem plays_next (found : world.next? sessionProgram horizon = some after) :
    ∃ moments, Plays world moments after := by
  rw [World.next?] at found
  split at found
  · obtain rfl := Option.some.inj found
    exact plays_ring world _
  · next act reply rest _ _ =>
    obtain rfl := Option.some.inj found
    obtain ⟨moments, plays⟩ := plays_receive { world with arrived := rest } act reply
    exact ⟨moments, plays.of_same rfl rfl⟩
  · next act rest _ _ _ =>
    obtain rfl := Option.some.inj found
    obtain ⟨moments, plays⟩ := plays_handOn { world with received := rest } act
    exact ⟨moments, plays.of_same rfl rfl⟩
  · obtain ⟨alarm, _, rfl⟩ := Option.map_eq_some_iff.mp found
    exact plays_ring world alarm

theorem plays_runSteps (world : World Session SessionAct) (fuel : Nat) :
    ∃ moments, Plays world moments (world.runSteps sessionProgram horizon fuel) := by
  induction fuel generalizing world with
  | zero => exact plays_wait world horizon
  | succ fuel ih =>
      rw [World.runSteps]
      cases found : world.next? sessionProgram horizon with
      | none => exact plays_wait world horizon
      | some after =>
          obtain ⟨moments, plays⟩ := plays_next found
          obtain ⟨later, onward⟩ := ih after
          exact ⟨_, plays.trans onward⟩

/-- A step from outside, and everything that happens by itself afterwards. -/
theorem plays_takeStep (world : World Session SessionAct) (number : Nat) (step : SessionStep) :
    ∃ moments, Plays world moments (takeStep world number step) := by
  have plays_perform (event : SessionEvent) : ∃ moments,
      Plays world moments (world.perform sessionProgram (world.state.step event)) := by
    obtain ⟨moments, plays⟩ := plays_follow world event
    obtain ⟨later, onward⟩ :=
      plays_runSteps (world.follow sessionProgram (world.state.step event)) _
    exact ⟨_, plays.trans onward⟩
  cases step with
  | call tool arguments => exact plays_perform (.call number tool arguments)
  | cancel call => exact plays_perform (.cancel call)
  | advance time => exact plays_runSteps world _

/-! ## Snapshots -/

/-- A snapshot shows a session in the course of time, or one that was closed then. -/
def Shows (first : Session) (shot : Snapshot) : Prop :=
  ∃ world moments, Course process first moments world.state ∧
    (shot = snapshot world ∨ shot = snapshot { world with state := world.state.close })

theorem shows_of_mem_snapshotsFrom {first : Session} {moments : List SessionMoment} {number : Nat}
    {steps : List SessionStep} (reached : Course process first moments world.state)
    {shot : Snapshot} (taken : shot ∈ snapshotsFrom world number steps) : Shows first shot := by
  induction steps generalizing world moments number with
  | nil =>
      rw [snapshotsFrom, List.mem_singleton] at taken
      exact ⟨world.forgetRecord, moments, reached, .inr taken⟩
  | cons step rest ih =>
      obtain ⟨later, plays⟩ := plays_takeStep world.forgetRecord number step
      have onward := reached.append plays.course
      rw [snapshotsFrom, List.mem_cons] at taken
      rcases taken with rfl | further
      · exact ⟨_, _, onward, .inl rfl⟩
      · exact ih onward further

/-- Every snapshot of a session that is run in virtual time shows it at some moment of a course. -/
theorem shows_of_run {settings : Settings} {script : Script} {steps : List SessionStep}
    {first : Session} {acts : List SessionAct} {snapshots : List Snapshot}
    (started : start? settings = some (first, acts))
    (ran : runSession? settings script steps = some snapshots) :
    ∀ shot ∈ snapshots, Shows first shot := by
  rw [runSession?, started] at ran
  obtain rfl := Option.some.inj ran
  obtain ⟨begun, course, -, -⟩ := records_foldl (World.start first script) acts
  obtain ⟨later, onward⟩ := plays_runSteps
    ((World.start first script).follow sessionProgram (first, acts)) _
  have reached := course.append onward.course
  intro shot taken
  rcases List.mem_cons.mp taken with rfl | further
  · exact ⟨_, _, reached, .inl rfl⟩
  · exact shows_of_mem_snapshotsFrom reached further

end Session

end CodeComplexity
