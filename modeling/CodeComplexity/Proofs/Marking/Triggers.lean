import CodeComplexity.Proofs.Course
import CodeComplexity.Proofs.Marking.Alarms
import CodeComplexity.Proofs.Marking.Passes
import CodeComplexity.Simulation.AnnotatorRun

/-!
# Triggers of passes

An annotator in the course of time: steps are taken in any order, alarms ring when they are due, and
time passes, but never beyond a moment for which an alarm is set.  Whatever happens sets the alarm
of a document anew, drops it, or leaves it alone, and which of the three it is can be told from the
event.
-/

namespace CodeComplexity

open Simulation

/-- Something that happens to an annotator. -/
inductive AnnotatorEvent where
  | step (step : AnnotatorStep)
  | ring (alarm : Alarm)
  /-- Time passes up to a moment. -/
  | wait (moment : Int)

abbrev AnnotatorMoment :=
  Moment AnnotatorRun AnnotatorEvent Redraw

namespace Debounce

variable {run : AnnotatorRun} {event : AnnotatorEvent} {uri : Uri}

def alarms (run : AnnotatorRun) : List Alarm :=
  run.canvas.annotator.alarms.map Prod.snd

def alarm? (run : AnnotatorRun) (uri : Uri) : Option Alarm :=
  run.canvas.annotator.alarm? uri

def movedTo (run : AnnotatorRun) (moment : Int) : AnnotatorRun :=
  { run with timeline := run.timeline.movedTo moment }

def step (run : AnnotatorRun) : AnnotatorEvent → AnnotatorRun × List Redraw
  | .step step => (run.take step).1
  | .ring alarm => run.painted (run.canvas.ring run.clock run.documents alarm)
  | .wait moment => (movedTo run moment, [])

/-- What may happen: an alarm rings once it is due, and no moment passes for which an alarm is
set. -/
def may (run : AnnotatorRun) : AnnotatorEvent → Prop
  | .step _ => True
  | .ring alarm => alarm ∈ alarms run ∧ alarm.due ≤ run.timeline.now
  | .wait moment => ∀ alarm ∈ alarms run, moment ≤ max alarm.due run.timeline.now

/-- An annotator in the course of time. -/
def process : Process AnnotatorRun AnnotatorEvent Redraw where
  may := may
  step := step

/-- A trigger that is accepted: while annotations are enabled, a document comes into view, or the
one in view changes. -/
inductive Accepts (run : AnnotatorRun) : AnnotatorEvent → Uri → Prop where
  | activate {uri : Uri} (enabled : run.canvas.annotator.enabled = true) :
      Accepts run (.step (.activate uri)) uri
  | change {uri : Uri} (enabled : run.canvas.annotator.enabled = true)
      (shown : run.canvas.annotator.active = some uri) : Accepts run (.step (.change uri)) uri

/-- What keeps a document from being drawn: it is closed, annotations are disabled, or all alarms
are dropped. -/
inductive Spoils (run : AnnotatorRun) : AnnotatorEvent → Uri → Prop where
  | close {uri : Uri} : Spoils run (.step (.closeView uri)) uri
  | disable {uri : Uri} (enabled : run.canvas.annotator.enabled = true) :
      Spoils run (.step (.setEnabled false)) uri
  | toggle {uri : Uri} (enabled : run.canvas.annotator.enabled = true) :
      Spoils run (.step .toggle) uri
  | shutdown {uri : Uri} : Spoils run (.step .shutdown) uri

/-- The alarm of a document rings, and a pass over it runs. -/
inductive Fires (run : AnnotatorRun) : AnnotatorEvent → Uri → Prop where
  | ring {alarm : Alarm} {uri : Uri} (due : run.canvas.annotator.documentOf? alarm = some uri) :
      Fires run (.ring alarm) uri

/-- Nothing happens to the alarm of a document. -/
structure Silent (run : AnnotatorRun) (event : AnnotatorEvent) (uri : Uri) : Prop where
  noTrigger : ¬ Accepts run event uri
  unspoiled : ¬ Spoils run event uri
  noPass : ¬ Fires run event uri

/-- What an event does to the alarm of a document. -/
inductive AlarmChange (run : AnnotatorRun) (event : AnnotatorEvent) (after : AnnotatorRun)
    (uri : Uri) : Prop where
  | set (accepts : Accepts run event uri)
      (alarm : alarm? after uri = some (run.canvas.annotator.alarmNow run.timeline))
  | dropped (noTrigger : ¬ Accepts run event uri)
      (cause : Spoils run event uri ∨ Fires run event uri)
      (alarm : alarm? after uri = none)
  | kept (silent : Silent run event uri) (alarm : alarm? after uri = alarm? run uri)

/-! ## What a step does to the annotator -/

/-- Annotations are switched on or off; switching them off drops all alarms. -/
def switched (annotator : Annotator) (enabled : Bool) : Annotator :=
  if annotator.enabled = true ∧ enabled = false then
    { annotator with enabled := false, alarms := [] }
  else { annotator with enabled }

/-- The annotator after a step, but for the documents that were drawn. -/
def annotatorAfter (annotator : Annotator) (timeline : Timeline) : AnnotatorStep → Annotator
  | .toggle => switched annotator !annotator.enabled
  | .setEnabled enabled => switched annotator enabled
  | .shutdown => annotator.shutdown
  | .activate uri => annotator.activate timeline uri
  | .change uri => annotator.change timeline uri
  | .closeView uri => (annotator.close uri).1
  | .put _ _ | .clearCache | .setClock _ | .openDocument _ _ | .updateDocument _ _
  | .closeDocument _ | .judge _ | .pass _ | .advance _ => annotator

theorem annotator_setEnabled (canvas : Canvas) (clock : ClockReading) (documents : Documents)
    (enabled : Bool) :
    ∃ drawn, (canvas.setEnabled clock documents enabled).1.annotator =
      { switched canvas.annotator enabled with drawn } := by
  obtain ⟨⟨delay, on, active, alarms, drawn⟩, cache⟩ := canvas
  cases on with
  | true =>
      cases enabled with
      | true => exact ⟨_, rfl⟩
      | false => exact ⟨_, rfl⟩
  | false =>
      cases enabled with
      | true =>
          cases active with
          | none => exact ⟨_, rfl⟩
          | some uri =>
              obtain ⟨-, redrawn, annotator⟩ := Canvas.pass_still
                ⟨⟨delay, true, some uri, alarms, drawn⟩, cache⟩ clock documents uri
              exact ⟨redrawn, annotator⟩
      | false => exact ⟨_, rfl⟩

theorem annotator_take (run : AnnotatorRun) (step : AnnotatorStep) :
    ∃ drawn, (run.take step).1.1.canvas.annotator =
      { annotatorAfter run.canvas.annotator run.timeline step with drawn } := by
  cases step with
  | put code verdict =>
      simp only [AnnotatorRun.take]
      split <;> exact ⟨_, rfl⟩
  | clearCache => exact ⟨_, rfl⟩
  | setClock works => exact ⟨_, rfl⟩
  | openDocument uri text => exact ⟨_, rfl⟩
  | updateDocument uri text =>
      simp only [AnnotatorRun.take]
      split <;> exact ⟨_, rfl⟩
  | closeDocument uri => exact ⟨_, rfl⟩
  | judge text => exact ⟨_, rfl⟩
  | toggle => exact annotator_setEnabled _ _ _ _
  | setEnabled enabled => exact annotator_setEnabled _ _ _ _
  | shutdown => exact ⟨_, rfl⟩
  | activate uri => exact ⟨_, rfl⟩
  | change uri => exact ⟨_, rfl⟩
  | closeView uri => exact ⟨_, rfl⟩
  | pass uri =>
      obtain ⟨-, drawn, annotator⟩ := run.canvas.pass_still run.clock run.documents uri
      exact ⟨drawn, annotator⟩
  | advance time => exact ⟨_, rfl⟩

theorem now_take (run : AnnotatorRun) (step : AnnotatorStep) :
    (run.take step).1.1.timeline.now = run.timeline.now := by
  cases step with
  | put | updateDocument =>
      simp only [AnnotatorRun.take]
      split <;> rfl
  | _ => rfl

theorem alarm?_take (run : AnnotatorRun) (step : AnnotatorStep) (uri : Uri) :
    alarm? (run.take step).1.1 uri =
      (annotatorAfter run.canvas.annotator run.timeline step).alarm? uri := by
  obtain ⟨drawn, annotator⟩ := annotator_take run step
  rw [alarm?, annotator]
  rfl

/-! ## What an event does to the alarm of a document -/

theorem alarm?_switched (annotator : Annotator) (enabled : Bool) (uri : Uri) :
    (switched annotator enabled).alarm? uri =
      if annotator.enabled = true ∧ enabled = false then none else annotator.alarm? uri := by
  rw [switched]
  split
  · rfl
  · rfl

theorem not_fires_step (step : AnnotatorStep) : ¬ Fires run (.step step) uri := by
  intro fires
  cases fires

/-- Switching annotations off spoils every document, and switching them on changes no alarm. -/
theorem AlarmChange.of_switched {step : AnnotatorStep} {enabled : Bool} {after : AnnotatorRun}
    (noTrigger : ¬ Accepts run (.step step) uri)
    (spoils : Spoils run (.step step) uri ↔
      run.canvas.annotator.enabled = true ∧ enabled = false)
    (change : alarm? after uri = (switched run.canvas.annotator enabled).alarm? uri) :
    AlarmChange run (.step step) after uri := by
  rw [alarm?_switched] at change
  by_cases off : run.canvas.annotator.enabled = true ∧ enabled = false
  · rw [if_pos off] at change
    exact .dropped noTrigger (.inl (spoils.mpr off)) change
  · rw [if_neg off] at change
    refine .kept ⟨noTrigger, ?_, not_fires_step step⟩ change
    intro spoiled
    exact off (spoils.mp spoiled)

theorem AlarmChange.of_armed {step : AnnotatorStep} {other : Uri} {after : AnnotatorRun}
    (accepts : Accepts run (.step step) other)
    (only : Accepts run (.step step) uri → uri = other)
    (unspoiled : ¬ Spoils run (.step step) uri)
    (change : alarm? after uri =
      if uri = other then some (run.canvas.annotator.alarmNow run.timeline) else alarm? run uri) :
    AlarmChange run (.step step) after uri := by
  by_cases same : uri = other
  · subst same
    rw [if_pos rfl] at change
    exact .set accepts change
  · rw [if_neg same] at change
    refine .kept ⟨?_, unspoiled, not_fires_step step⟩ change
    intro accepted
    exact same (only accepted)

theorem AlarmChange.of_disarmed {other : Uri} {after : AnnotatorRun}
    (noTrigger : ¬ Accepts run event uri) (cause : Spoils run event other ∨ Fires run event other)
    (only : Spoils run event uri ∨ Fires run event uri → uri = other)
    (change : alarm? after uri = if uri = other then none else alarm? run uri) :
    AlarmChange run event after uri := by
  by_cases same : uri = other
  · subst same
    rw [if_pos rfl] at change
    exact .dropped noTrigger cause change
  · rw [if_neg same] at change
    refine .kept ⟨noTrigger, ?_, ?_⟩ change
    · intro spoils
      exact same (only (.inl spoils))
    · intro fires
      exact same (only (.inr fires))

theorem alarmChange_activate (run : AnnotatorRun) (other uri : Uri) :
    AlarmChange run (.step (.activate other)) (run.take (.activate other)).1.1 uri := by
  have change := alarm?_take run (.activate other) uri
  have unspoiled : ¬ Spoils run (.step (.activate other)) uri := by
    intro spoils
    cases spoils
  rw [annotatorAfter, Annotator.activate] at change
  by_cases on : run.canvas.annotator.enabled = true
  · rw [if_pos on, Annotator.alarm?_arm] at change
    refine .of_armed (.activate on) ?_ unspoiled change
    intro accepts
    cases accepts
    rfl
  · rw [if_neg on] at change
    refine .kept ⟨?_, unspoiled, not_fires_step _⟩ change
    intro accepts
    cases accepts with
    | activate enabled => exact on enabled

theorem alarmChange_change (run : AnnotatorRun) (other uri : Uri) :
    AlarmChange run (.step (.change other)) (run.take (.change other)).1.1 uri := by
  have change := alarm?_take run (.change other) uri
  have unspoiled : ¬ Spoils run (.step (.change other)) uri := by
    intro spoils
    cases spoils
  rw [annotatorAfter, Annotator.change] at change
  by_cases shown : (run.canvas.annotator.enabled && run.canvas.annotator.active == some other) =
      true
  · rw [if_pos shown, Annotator.alarm?_arm] at change
    simp only [Bool.and_eq_true, beq_iff_eq] at shown
    refine .of_armed (.change shown.1 shown.2) ?_ unspoiled change
    intro accepts
    cases accepts
    rfl
  · rw [if_neg shown] at change
    refine .kept ⟨?_, unspoiled, not_fires_step _⟩ change
    intro accepts
    cases accepts with
    | change enabled active => simp [enabled, active] at shown

theorem alarmChange_take (run : AnnotatorRun) (step : AnnotatorStep) (uri : Uri) :
    AlarmChange run (.step step) (run.take step).1.1 uri := by
  have change := alarm?_take run step uri
  cases step with
  | activate other => exact alarmChange_activate run other uri
  | change other => exact alarmChange_change run other uri
  | toggle =>
      refine .of_switched ?_ ?_ change
      · intro accepts
        cases accepts
      · constructor
        · intro spoils
          cases spoils with
          | toggle on => exact ⟨on, by rw [on]; rfl⟩
        · intro off
          exact .toggle off.1
  | setEnabled enabled =>
      refine .of_switched ?_ ?_ change
      · intro accepts
        cases accepts
      · constructor
        · intro spoils
          cases spoils with
          | disable on => exact ⟨on, rfl⟩
        · rintro ⟨on, rfl⟩
          exact .disable on
  | shutdown =>
      refine .dropped ?_ (.inl .shutdown) change
      intro accepts
      cases accepts
  | closeView other =>
      refine .of_disarmed ?_ (.inl .close) ?_
        (change.trans (run.canvas.annotator.alarm?_disarm other uri))
      · intro accepts
        cases accepts
      · intro cause
        rcases cause with spoils | fires
        · cases spoils
          rfl
        · cases fires
  | put | clearCache | setClock | openDocument | updateDocument | closeDocument | judge | pass
  | advance =>
      refine .kept ⟨?_, ?_, not_fires_step _⟩ change
      · intro accepts
        cases accepts
      · intro spoils
        cases spoils

theorem alarmChange_ring (run : AnnotatorRun) (alarm : Alarm) (uri : Uri) :
    AlarmChange run (.ring alarm) (step run (.ring alarm)).1 uri := by
  have noTrigger : ¬ Accepts run (.ring alarm) uri := by
    intro accepts
    cases accepts
  have unspoiled : ¬ Spoils run (.ring alarm) uri := by
    intro spoils
    cases spoils
  cases due : run.canvas.annotator.documentOf? alarm with
  | none =>
      refine .kept ⟨noTrigger, unspoiled, ?_⟩ ?_
      · intro fires
        cases fires with
        | ring found =>
            rw [due] at found
            cases found
      · rw [step, AnnotatorRun.painted, Canvas.ring_of_none due]
  | some ringing =>
      obtain ⟨-, drawn, annotator⟩ := Canvas.pass_still
        ⟨run.canvas.annotator.disarm ringing, run.canvas.cache⟩ run.clock run.documents ringing
      have change : alarm? (step run (.ring alarm)).1 uri =
          if uri = ringing then none else alarm? run uri := by
        rw [step, AnnotatorRun.painted, Canvas.ring_of_some due, alarm?, annotator]
        exact run.canvas.annotator.alarm?_disarm ringing uri
      refine .of_disarmed noTrigger (.inr (.ring due)) ?_ change
      intro cause
      rcases cause with spoils | fires
      · exact absurd spoils unspoiled
      · cases fires with
        | ring found =>
            rw [due] at found
            exact (Option.some.inj found).symm

/-- Whatever happens sets the alarm of a document, drops it, or leaves it alone. -/
theorem alarmChange (run : AnnotatorRun) (event : AnnotatorEvent) (uri : Uri) :
    AlarmChange run event (step run event).1 uri := by
  cases event with
  | step step => exact alarmChange_take run step uri
  | ring alarm => exact alarmChange_ring run alarm uri
  | wait moment =>
      refine .kept ⟨?_, ?_, ?_⟩ rfl
      · intro accepts
        cases accepts
      · intro spoils
        cases spoils
      · intro fires
        cases fires

/-! ## What every event keeps -/

/-- The alarms are in order, and the time to wait is always the same. -/
structure Sound (delay : Int) (run : AnnotatorRun) : Prop where
  delay_eq : run.canvas.annotator.delay = delay
  orderly : run.canvas.annotator.Orderly

variable {delay : Int}

theorem delay_annotatorAfter (annotator : Annotator) (timeline : Timeline) (step : AnnotatorStep) :
    (annotatorAfter annotator timeline step).delay = annotator.delay := by
  cases step with
  | toggle | setEnabled => simp only [annotatorAfter, switched]; split <;> rfl
  | activate => simp only [annotatorAfter, Annotator.activate]; split <;> rfl
  | change => simp only [annotatorAfter, Annotator.change]; split <;> rfl
  | _ => rfl

theorem orderly_switched {annotator : Annotator} (orderly : annotator.Orderly) (enabled : Bool) :
    (switched annotator enabled).Orderly := by
  constructor
  · rw [switched]
    split
    · exact List.nodup_nil
    · exact orderly.unique
  · intro uri alarm set
    rw [alarm?_switched] at set
    split at set
    · cases set
    · next stays =>
      have on := orderly.enabled uri alarm set
      rw [switched, if_neg stays]
      rw [on] at stays
      simpa using stays

theorem orderly_annotatorAfter {annotator : Annotator} (orderly : annotator.Orderly)
    (timeline : Timeline) (step : AnnotatorStep) :
    (annotatorAfter annotator timeline step).Orderly := by
  cases step with
  | toggle => exact orderly_switched orderly _
  | setEnabled enabled => exact orderly_switched orderly enabled
  | shutdown =>
      refine ⟨List.nodup_nil, ?_⟩
      intro uri alarm set
      cases set
  | activate uri => exact orderly.activate timeline uri
  | change uri => exact orderly.change timeline uri
  | closeView uri =>
      have left := orderly.disarm uri
      exact ⟨left.unique, left.enabled⟩
  | put | clearCache | setClock | openDocument | updateDocument | closeDocument | judge | pass
  | advance => exact orderly

theorem Sound.step (sound : Sound delay run) (event : AnnotatorEvent) :
    Sound delay (step run event).1 := by
  cases event with
  | step step =>
      obtain ⟨drawn, annotator⟩ := annotator_take run step
      have orderly := orderly_annotatorAfter sound.orderly run.timeline step
      constructor
      · change (run.take step).1.1.canvas.annotator.delay = delay
        rw [annotator]
        exact (delay_annotatorAfter _ _ _).trans sound.delay_eq
      · change (run.take step).1.1.canvas.annotator.Orderly
        rw [annotator]
        exact ⟨orderly.unique, orderly.enabled⟩
  | ring alarm =>
      cases due : run.canvas.annotator.documentOf? alarm with
      | none =>
          rw [Debounce.step, AnnotatorRun.painted, Canvas.ring_of_none due]
          exact sound
      | some uri =>
          obtain ⟨-, drawn, annotator⟩ := Canvas.pass_still
            ⟨run.canvas.annotator.disarm uri, run.canvas.cache⟩ run.clock run.documents uri
          have orderly := sound.orderly.disarm uri
          rw [Debounce.step, AnnotatorRun.painted, Canvas.ring_of_some due]
          constructor
          · dsimp only
            rw [annotator]
            exact sound.delay_eq
          · dsimp only
            rw [annotator]
            exact ⟨orderly.unique, orderly.enabled⟩
  | wait moment => exact ⟨sound.delay_eq, sound.orderly⟩

theorem now_step (run : AnnotatorRun) (event : AnnotatorEvent) :
    (step run event).1.timeline.now = run.timeline.now ∨
      ∃ moment, event = .wait moment ∧
        (step run event).1.timeline.now = max run.timeline.now moment := by
  cases event with
  | step step => exact .inl (now_take run step)
  | ring alarm => exact .inl rfl
  | wait moment => exact .inr ⟨moment, rfl, rfl⟩

end Debounce

end CodeComplexity
