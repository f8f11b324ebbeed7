import CodeComplexity.Proofs.Marking.Triggers

/-!
# Annotators in virtual time

A run in virtual time rings the alarms one after the other, each at its moment, and then lets the
rest of the time pass.  So it is a course of the annotator like any other one, in which no step
happens but those that are taken, and what it records is what the annotator drew.
-/

namespace CodeComplexity

open Simulation

namespace Debounce

variable {world before after : World AnnotatorRun Redraw} {horizon : Int}
  {moments later : List AnnotatorMoment}

/-- Nothing is under way: an annotator sends no requests. -/
structure Alone (world : World AnnotatorRun Redraw) : Prop where
  underWay : world.underWay = []
  arrived : world.arrived = []
  received : world.received = []

def stepsTaken (moments : List AnnotatorMoment) : List AnnotatorStep :=
  moments.filterMap fun moment =>
    match moment.event with
    | .step step => some step
    | .ring _ | .wait _ => none

/-- A world goes on by some moments of its annotator, and records what is drawn. -/
structure Plays (before : World AnnotatorRun Redraw) (steps : List AnnotatorStep)
    (moments : List AnnotatorMoment) (after : World AnnotatorRun Redraw) : Prop where
  course : Course process before.state moments after.state
  steps_eq : stepsTaken moments = steps
  record : after.acts = before.acts ++ moments.flatMap Moment.acts
  alone : Alone after

theorem Plays.trans {middle : World AnnotatorRun Redraw} {steps rest : List AnnotatorStep}
    (first : Plays before steps moments middle) (second : Plays middle rest later after) :
    Plays before (steps ++ rest) (moments ++ later) after := by
  refine ⟨first.course.append second.course, ?_, ?_, second.alone⟩
  · rw [← first.steps_eq, ← second.steps_eq, stepsTaken, List.filterMap_append]
    rfl
  · rw [second.record, first.record, List.flatMap_append, List.append_assoc]

theorem foldl_act (world : World AnnotatorRun Redraw) (redraws : List Redraw) :
    redraws.foldl (World.act AnnotatorRun.program) world =
      { world with record := world.record ++ redraws.map fun redraw => (redraw, none) } := by
  induction redraws generalizing world with
  | nil => simp
  | cons redraw rest ih =>
      have recorded : World.act AnnotatorRun.program world redraw =
          { world with record := world.record ++ [(redraw, none)] } := rfl
      rw [List.foldl_cons, recorded, ih]
      simp

/-- What an annotator draws is recorded, and nothing else happens. -/
theorem follow_eq (world : World AnnotatorRun Redraw) (change : AnnotatorRun × List Redraw) :
    world.follow AnnotatorRun.program change =
      { world with
        state := change.1
        record := world.record ++ change.2.map fun redraw => (redraw, none) } :=
  foldl_act { world with state := change.1 } change.2

theorem plays_follow (alone : Alone world) {event : AnnotatorEvent}
    (allowed : may world.state event) :
    Plays world (stepsTaken [process.moment world.state event])
      [process.moment world.state event]
      (world.follow AnnotatorRun.program (step world.state event)) := by
  rw [follow_eq]
  refine ⟨?_, rfl, ?_, ⟨alone.underWay, alone.arrived, alone.received⟩⟩
  · exact Course.next event .start allowed
  · simp [World.acts, Process.moment, process, Function.comp_def]

/-! ## Alarms that are due -/

theorem alarmBy?_eq (alone : Alone world) (moment : Int) :
    world.alarmBy? AnnotatorRun.program moment =
      (Alarm.earliest? (alarms world.state)).filter fun alarm => alarm.due ≤ moment := by
  rw [World.alarmBy?, World.nextAlarm?, alone.underWay, List.map_nil, List.append_nil]
  change Option.filter _ (Alarm.earliest? (Alarm.earliest? (alarms world.state)).toList) = _
  cases Alarm.earliest? (alarms world.state) with
  | none => rfl
  | some alarm => rfl

theorem due_of_alarmBy? (alone : Alone world) {moment : Int} {alarm : Alarm}
    (found : world.alarmBy? AnnotatorRun.program moment = some alarm) :
    alarm ∈ alarms world.state ∧ ∀ other ∈ alarms world.state, alarm.due ≤ other.due := by
  rw [alarmBy?_eq alone] at found
  have first := (Option.filter_eq_some_iff.mp found).1
  exact ⟨Alarm.earliest?_mem first, Alarm.earliest?_due_le first⟩

theorem later_of_alarmBy? (alone : Alone world) {moment : Int}
    (found : world.alarmBy? AnnotatorRun.program moment = none) :
    ∀ alarm ∈ alarms world.state, moment < alarm.due := by
  rw [alarmBy?_eq alone] at found
  cases first : Alarm.earliest? (alarms world.state) with
  | none =>
      rw [Alarm.earliest?_eq_none_iff.mp first]
      simp
  | some alarm =>
      rw [first] at found
      have late : moment < alarm.due := by simpa [Option.filter] using found
      intro other listed
      exact Int.lt_of_lt_of_le late (Alarm.earliest?_due_le first other listed)

theorem plays_wait (alone : Alone world) {moment : Int} (allowed : may world.state (.wait moment)) :
    Plays world [] [process.moment world.state (.wait moment)]
      { world with state := movedTo world.state moment } := by
  refine ⟨Course.next (AnnotatorEvent.wait moment) .start allowed, rfl, ?_,
    ⟨alone.underWay, alone.arrived, alone.received⟩⟩
  exact (List.append_nil _).symm

theorem length_alarms_ring {run : AnnotatorRun} {alarm : Alarm} (set : alarm ∈ alarms run) :
    (alarms (step run (.ring alarm)).1).length < (alarms run).length := by
  obtain ⟨⟨uri, other⟩, listed, rfl⟩ := List.mem_map.mp set
  have isSome : (run.canvas.annotator.documentOf? other).isSome = true := by
    rw [Annotator.documentOf?, Option.isSome_map, List.find?_isSome]
    exact ⟨(uri, other), listed, by simp⟩
  obtain ⟨ringing, due⟩ := Option.isSome_iff_exists.mp isSome
  obtain ⟨-, drawn, annotator⟩ := Canvas.pass_still
    ⟨run.canvas.annotator.disarm ringing, run.canvas.cache⟩ run.clock run.documents ringing
  have left : (step run (.ring other)).1.canvas.annotator.alarms =
      Keyed.erase ringing run.canvas.annotator.alarms := by
    rw [step, AnnotatorRun.painted, Canvas.ring_of_some due, annotator]
    rfl
  obtain ⟨⟨document, alarm⟩, found, rfl⟩ := Option.map_eq_some_iff.mp due
  rw [alarms, left, alarms, List.length_map, List.length_map, Keyed.erase]
  exact List.length_filter_lt_length_iff_exists.mpr
    ⟨_, List.mem_of_find?_eq_some found, by simp⟩

theorem plays_ring (alone : Alone world) {alarm : Alarm} (set : alarm ∈ alarms world.state)
    (first : ∀ other ∈ alarms world.state, alarm.due ≤ other.due) :
    ∃ moments, Plays world [] moments (world.ring AnnotatorRun.program alarm) ∧
      (alarms (world.ring AnnotatorRun.program alarm).state).length <
        (alarms world.state).length := by
  have waits : may world.state (.wait alarm.due) := by
    intro other listed
    have bound := first other listed
    omega
  have waiting := plays_wait alone waits
  have rings : may (movedTo world.state alarm.due) (.ring alarm) :=
    ⟨set, Int.le_max_right _ _⟩
  have ringing := plays_follow waiting.alone rings
  have change : world.ring AnnotatorRun.program alarm =
      { world with state := movedTo world.state alarm.due }.follow AnnotatorRun.program
        (step (movedTo world.state alarm.due) (.ring alarm)) := by
    rw [World.ring, alone.underWay]
    rfl
  rw [change]
  refine ⟨_, waiting.trans ringing, ?_⟩
  rw [follow_eq]
  exact length_alarms_ring (show alarm ∈ alarms (movedTo world.state alarm.due) from set)

theorem plays_next (alone : Alone world)
    (found : world.next? AnnotatorRun.program horizon = some after) :
    ∃ moments, Plays world [] moments after ∧
      (alarms after.state).length < (alarms world.state).length := by
  rw [World.next?, alone.arrived, alone.received] at found
  split at found
  · next alarm _ _ rings =>
    obtain rfl := Option.some.inj found
    obtain ⟨set, first⟩ := due_of_alarmBy? alone rings
    exact plays_ring alone set first
  · next arrived => cases arrived
  · next received => cases received
  · obtain ⟨alarm, rings, rfl⟩ := Option.map_eq_some_iff.mp found
    obtain ⟨set, first⟩ := due_of_alarmBy? alone rings
    exact plays_ring alone set first

/-- When nothing happens by itself up to a moment, no alarm is set for so early. -/
theorem later_of_next? (alone : Alone world)
    (done : world.next? AnnotatorRun.program horizon = none) :
    ∀ alarm ∈ alarms world.state, horizon < alarm.due := by
  rw [World.next?, alone.arrived, alone.received] at done
  split at done
  · cases done
  · cases done
  · cases done
  · exact later_of_alarmBy? alone (Option.map_eq_none_iff.mp done)

/-- With room for all alarms that are set, everything up to a moment happens. -/
theorem plays_runSteps (fuel : Nat) (alone : Alone world)
    (enough : (alarms world.state).length ≤ fuel) :
    ∃ moments, Plays world [] moments (world.runSteps AnnotatorRun.program horizon fuel) := by
  induction fuel generalizing world with
  | zero =>
      have unset : alarms world.state = [] := List.length_eq_zero_iff.mp (Nat.le_zero.mp enough)
      refine ⟨_, plays_wait alone ?_⟩
      intro alarm listed
      rw [unset] at listed
      cases listed
  | succ fuel ih =>
      rw [World.runSteps]
      cases found : world.next? AnnotatorRun.program horizon with
      | none =>
          refine ⟨_, plays_wait alone ?_⟩
          intro alarm listed
          have late := later_of_next? alone found alarm listed
          omega
      | some after =>
          obtain ⟨moments, plays, fewer⟩ := plays_next alone found
          obtain ⟨later, onward⟩ := ih plays.alone (by omega)
          exact ⟨_, plays.trans onward⟩

theorem plays_advance (alone : Alone world) (time : Int) :
    ∃ moments, Plays world [] moments (world.advance AnnotatorRun.program time) := by
  refine plays_runSteps _ alone ?_
  rw [World.load, alone.underWay, alone.arrived, alone.received, alarms, List.length_map]
  exact Nat.le_refl _

/-! ## Steps in virtual time -/

/-- A step, unless it only lets time pass. -/
def ownStep : AnnotatorStep → List AnnotatorStep
  | .advance _ => []
  | step => [step]

theorem plays_stepIn (alone : Alone world) (step : AnnotatorStep) :
    ∃ moments, Plays world (ownStep step) moments
      (AnnotatorRun.stepIn world step).1 := by
  have taken : may world.state (.step step) := trivial
  have plays := plays_follow alone taken
  obtain ⟨moments, onward⟩ := plays_advance plays.alone 0
  cases step with
  | advance time => exact plays_advance alone time
  | _ => exact ⟨_, plays.trans onward⟩

/-- What is done with an annotator in virtual time is a course of it. -/
theorem plays_steps (alone : Alone world) (steps : List AnnotatorStep) :
    ∃ moments, Plays world (steps.flatMap ownStep) moments
      (steps.foldl (fun world step => (AnnotatorRun.stepIn world step).1) world) := by
  induction steps generalizing world with
  | nil => exact ⟨[], .start, rfl, (List.append_nil _).symm, alone⟩
  | cons step rest ih =>
      obtain ⟨moments, plays⟩ := plays_stepIn alone step
      obtain ⟨later, onward⟩ := ih plays.alone
      rw [List.flatMap_cons]
      exact ⟨_, plays.trans onward⟩

end Debounce

end CodeComplexity
