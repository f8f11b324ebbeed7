import CodeComplexity.Proofs.Marking.Driven

/-!
# Passes follow triggers

The alarm of a document stands for the latest trigger that was accepted for it, unless it has been
spoiled since, and it rings after exactly the time to wait.  So a pass over a document runs if and
only if a trigger was accepted that long before and nothing came in between: no other trigger of the
document, no closing of it, no disabling, and no shutdown.
-/

namespace CodeComplexity

open Simulation

namespace Debounce

variable {delay : Int} {run first last : AnnotatorRun} {moments past rest : List AnnotatorMoment}
  {moment : AnnotatorMoment} {event : AnnotatorEvent} {uri : Uri} {alarm : Alarm}

/-- The alarm of a document was set by a trigger, and nothing has happened to it since.  It is not
overdue. -/
structure SetBy (delay : Int) (run : AnnotatorRun) (uri : Uri) (alarm : Alarm)
    (trigger : AnnotatorMoment) (between : List AnnotatorMoment) : Prop where
  accepts : Accepts trigger.state trigger.event uri
  silent : ∀ moment ∈ between, Silent moment.state moment.event uri
  due : alarm.due = trigger.state.timeline.now + delay
  after : trigger.state.timeline.now ≤ run.timeline.now
  inTime : run.timeline.now ≤ trigger.state.timeline.now + max delay 0

/-- Every alarm that is set has its trigger in the past. -/
structure Awaited (delay : Int) (moments : List AnnotatorMoment) (run : AnnotatorRun) : Prop where
  sound : Sound delay run
  set : ∀ uri alarm, alarm? run uri = some alarm → ∃ past trigger between,
    moments = past ++ trigger :: between ∧ SetBy delay run uri alarm trigger between

theorem alarm_mem (set : alarm? run uri = some alarm) : alarm ∈ alarms run :=
  List.mem_map_of_mem (f := Prod.snd) (Keyed.mem_of_get? set)

/-- Time passes, but not beyond the alarm of a document. -/
theorem SetBy.next {trigger : AnnotatorMoment} {between : List AnnotatorMoment}
    (given : SetBy delay run uri alarm trigger between) (set : alarm? run uri = some alarm)
    (allowed : may run event) (silent : Silent run event uri) :
    SetBy delay (step run event).1 uri alarm trigger (between ++ [process.moment run event]) := by
  have after := given.after
  have inTime := given.inTime
  have due := given.due
  refine ⟨given.accepts, ?_, due, ?_, ?_⟩
  · intro moment listed
    rcases List.mem_append.mp listed with old | new
    · exact given.silent moment old
    · rw [List.mem_singleton.mp new]
      exact silent
  · rcases now_step run event with same | ⟨moment, rfl, later⟩
    · rw [same]
      exact after
    · rw [later]
      omega
  · rcases now_step run event with same | ⟨moment, rfl, later⟩
    · rw [same]
      exact inTime
    · have bound := allowed alarm (alarm_mem set)
      rw [later]
      omega

theorem Awaited.step (awaited : Awaited delay past run) (allowed : may run event) :
    Awaited delay (past ++ [process.moment run event]) (step run event).1 := by
  refine ⟨awaited.sound.step event, ?_⟩
  intro uri alarm set
  cases alarmChange run event uri with
  | set accepts fresh =>
      obtain rfl := Option.some.inj (fresh.symm.trans set)
      have delay_eq := awaited.sound.delay_eq
      have still : (Debounce.step run event).1.timeline.now = run.timeline.now := by
        cases accepts <;> rfl
      refine ⟨past, process.moment run event, [], rfl, accepts, by simp, ?_, ?_, ?_⟩
      · rw [Annotator.alarmNow, delay_eq]
        rfl
      · rw [still]
        exact Int.le_refl _
      · rw [still]
        change run.timeline.now ≤ run.timeline.now + max delay 0
        omega
  | dropped noTrigger cause gone =>
      rw [gone] at set
      cases set
  | kept silent same =>
      rw [same] at set
      obtain ⟨earlier, trigger, between, rfl, given⟩ := awaited.set uri alarm set
      exact ⟨earlier, trigger, between ++ [process.moment run event], by simp,
        given.next set allowed silent⟩

theorem awaited_of_course {enabled : Bool} {cache : Cache}
    (course : Course process (AnnotatorRun.start delay enabled cache) moments last) :
    Awaited delay moments last := by
  refine course.history ?_ fun _ _ _ _ allowed awaited => awaited.step allowed
  refine ⟨⟨rfl, List.nodup_nil, ?_⟩, ?_⟩
  · intro uri alarm set
    cases set
  · intro uri alarm set
    cases set

/-! ## Alarms along a course -/

theorem alarm?_of_silent (course : Course process first moments last)
    (silent : ∀ moment ∈ moments, Silent moment.state moment.event uri) :
    alarm? last uri = alarm? first uri := by
  induction course with
  | start => rfl
  | next event before allowed ih =>
      rename_i earlier state
      have same := ih fun moment listed => silent moment (List.mem_append_left _ listed)
      have here : Silent state event uri := silent (process.moment state event) (by simp)
      cases alarmChange state event uri with
      | set accepts => exact absurd accepts here.noTrigger
      | dropped noTrigger cause =>
          rcases cause with spoils | fires
          · exact absurd spoils here.unspoiled
          · exact absurd fires here.noPass
      | kept _ kept => exact kept.trans same

theorem alarm?_of_no_trigger (course : Course process first moments last)
    (unset : alarm? first uri = none)
    (noTrigger : ∀ moment ∈ moments, ¬ Accepts moment.state moment.event uri) :
    alarm? last uri = none := by
  induction course with
  | start => exact unset
  | next event before allowed ih =>
      rename_i earlier state
      have still := ih fun moment listed => noTrigger moment (List.mem_append_left _ listed)
      cases alarmChange state event uri with
      | set accepts => exact absurd accepts (noTrigger (process.moment state event) (by simp))
      | dropped _ _ gone => exact gone
      | kept _ kept => exact kept.trans still

theorem now_le_of_course (course : Course process first moments last) :
    first.timeline.now ≤ last.timeline.now := by
  induction course with
  | start => exact Int.le_refl _
  | next event before allowed ih =>
      rename_i earlier state
      refine Int.le_trans ih ?_
      change state.timeline.now ≤ (step state event).1.timeline.now
      rcases now_step state event with same | ⟨moment, _, later⟩
      · exact Int.le_of_eq same.symm
      · rw [later]
        omega

theorem exists_alarm_of_fires (sound : Sound delay run) (allowed : may run event)
    (fires : Fires run event uri) :
    ∃ alarm, event = .ring alarm ∧ run.canvas.annotator.documentOf? alarm = some uri ∧
      alarm? run uri = some alarm ∧ alarm.due ≤ run.timeline.now := by
  obtain ⟨document⟩ := fires
  exact ⟨_, rfl, document, sound.orderly.alarm?_of_documentOf? document, allowed.2⟩

theorem not_fires_of_accepts (accepts : Accepts run event uri) : ¬ Fires run event uri := by
  intro fires
  cases fires
  cases accepts

/-! ## Every pass has its trigger -/

/-- A pass runs exactly the time to wait after the trigger that its alarm was set by. -/
theorem SetBy.now_of_due {trigger : AnnotatorMoment} {between : List AnnotatorMoment}
    (given : SetBy delay run uri alarm trigger between) (due : alarm.due ≤ run.timeline.now) :
    run.timeline.now = trigger.state.timeline.now + max delay 0 := by
  have after := given.after
  have inTime := given.inTime
  have set := given.due
  omega

theorem trigger_of_pass (awaited : Awaited delay past run) (allowed : may run event)
    (fires : Fires run event uri) :
    ∃ earlier trigger between, past = earlier ++ trigger :: between ∧
      Accepts trigger.state trigger.event uri ∧
      run.timeline.now = trigger.state.timeline.now + max delay 0 ∧
      ∀ moment ∈ between, Silent moment.state moment.event uri := by
  obtain ⟨alarm, -, -, set, due⟩ := exists_alarm_of_fires awaited.sound allowed fires
  obtain ⟨earlier, trigger, between, split, given⟩ := awaited.set uri alarm set
  exact ⟨earlier, trigger, between, split, given.accepts, given.now_of_due due, given.silent⟩

/-! ## Every trigger has its pass -/

theorem alarm?_of_accepts (sound : Sound delay run) (accepts : Accepts run event uri) :
    ∃ alarm, alarm? (step run event).1 uri = some alarm ∧
      alarm.due = run.timeline.now + delay := by
  cases alarmChange run event uri with
  | set _ fresh =>
      refine ⟨_, fresh, ?_⟩
      rw [Annotator.alarmNow, sound.delay_eq]
      rfl
  | dropped noTrigger => exact absurd accepts noTrigger
  | kept silent => exact absurd accepts silent.noTrigger

/-- Among moments, there is a first one of some kind or none at all. -/
theorem none_or_first (kind : AnnotatorMoment → Prop) (moments : List AnnotatorMoment) :
    (∀ moment ∈ moments, ¬ kind moment) ∨
      ∃ before moment after, moments = before ++ moment :: after ∧ kind moment ∧
        ∀ earlier ∈ before, ¬ kind earlier := by
  induction moments with
  | nil => exact .inl (by simp)
  | cons moment rest ih =>
      by_cases here : kind moment
      · exact .inr ⟨[], moment, rest, rfl, here, by simp⟩
      · rcases ih with nowhere | ⟨before, next, after, rfl, found, unfound⟩
        · left
          intro later listed
          cases List.mem_cons.mp listed with
          | inl same => exact same ▸ here
          | inr further => exact nowhere later further
        · refine .inr ⟨moment :: before, next, after, rfl, found, ?_⟩
          intro earlier listed
          cases List.mem_cons.mp listed with
          | inl same => exact same ▸ here
          | inr further => exact unfound earlier further

/-- Among moments that neither trigger nor spoil, there is a first pass or no pass at all. -/
theorem silent_or_first_pass {between : List AnnotatorMoment}
    (quiet : ∀ moment ∈ between, ¬ Accepts moment.state moment.event uri ∧
      ¬ Spoils moment.state moment.event uri) :
    (∀ moment ∈ between, Silent moment.state moment.event uri) ∨
      ∃ before pass after, between = before ++ pass :: after ∧
        Fires pass.state pass.event uri ∧
        ∀ moment ∈ before, Silent moment.state moment.event uri := by
  have silent (moment : AnnotatorMoment) (listed : moment ∈ between)
      (noPass : ¬ Fires moment.state moment.event uri) :
      Silent moment.state moment.event uri :=
    ⟨(quiet moment listed).1, (quiet moment listed).2, noPass⟩
  rcases none_or_first (fun moment => Fires moment.state moment.event uri) between with
    noPass | ⟨before, pass, after, rfl, fires, noneBefore⟩
  · left
    intro moment listed
    exact silent moment listed (noPass moment listed)
  · refine .inr ⟨before, pass, after, rfl, fires, ?_⟩
    intro moment listed
    exact silent moment (List.mem_append_left _ listed) (noneBefore moment listed)

/-- As long as nothing happens to it, an alarm is not overdue. -/
theorem inTime_of_silent {trigger : AnnotatorMoment} {between : List AnnotatorMoment}
    (awaited : Awaited delay moments run) (sound : Sound delay trigger.state)
    (happened : trigger = process.moment trigger.state trigger.event)
    (accepts : Accepts trigger.state trigger.event uri)
    (course : Course process trigger.after between run)
    (silent : ∀ moment ∈ between, Silent moment.state moment.event uri) :
    ∃ alarm, alarm? run uri = some alarm ∧
      run.timeline.now ≤ trigger.state.timeline.now + max delay 0 ∧
      (alarm.due ≤ run.timeline.now →
        run.timeline.now = trigger.state.timeline.now + max delay 0) := by
  obtain ⟨alarm, set, due⟩ := alarm?_of_accepts sound accepts
  have still := alarm?_of_silent course silent
  rw [happened] at still
  have now := still.trans set
  obtain ⟨_, setter, _, _, given⟩ := awaited.set uri alarm now
  have same : setter.state.timeline.now = trigger.state.timeline.now := by
    have setterDue := given.due
    omega
  refine ⟨alarm, now, ?_, ?_⟩
  · rw [← same]
    exact given.inTime
  · rw [← same]
    exact given.now_of_due

theorem alarm?_of_fires (fires : Fires run event uri) : alarm? (step run event).1 uri = none := by
  cases alarmChange run event uri with
  | set accepts => exact absurd fires (not_fires_of_accepts accepts)
  | dropped _ _ gone => exact gone
  | kept silent => exact absurd fires silent.noPass

theorem no_pass_without_trigger (sound : Sound delay first)
    (course : Course process first moments last) (unset : alarm? first uri = none)
    (noTrigger : ∀ moment ∈ moments, ¬ Accepts moment.state moment.event uri) :
    ∀ moment ∈ moments, ¬ Fires moment.state moment.event uri := by
  intro moment listed fires
  obtain ⟨before, after, rfl⟩ := List.append_of_mem listed
  obtain ⟨upTo, allowed, -, -⟩ := course.split
  have soundThere : Sound delay moment.state :=
    upTo.invariant sound fun _ event _ sound => sound.step event
  have still := alarm?_of_no_trigger upTo unset fun earlier listedEarlier =>
    noTrigger earlier (List.mem_append_left _ listedEarlier)
  obtain ⟨alarm, -, -, set, -⟩ := exists_alarm_of_fires soundThere allowed fires
  rw [still] at set
  cases set

theorem pass_of_trigger {trigger : AnnotatorMoment} {between : List AnnotatorMoment}
    {enabled : Bool} {cache : Cache}
    (course : Course process (AnnotatorRun.start delay enabled cache)
      (past ++ trigger :: between) last)
    (accepts : Accepts trigger.state trigger.event uri)
    (quiet : ∀ moment ∈ between, ¬ Accepts moment.state moment.event uri ∧
      ¬ Spoils moment.state moment.event uri)
    (passed : trigger.state.timeline.now + max delay 0 < last.timeline.now) :
    ∃ before pass after, between = before ++ pass :: after ∧
      Fires pass.state pass.event uri ∧
      pass.state.timeline.now = trigger.state.timeline.now + max delay 0 ∧
      ∀ moment ∈ before ++ after, ¬ Fires moment.state moment.event uri := by
  obtain ⟨toTrigger, -, happened, onward⟩ := course.split
  have sound := (awaited_of_course toTrigger).sound
  rcases silent_or_first_pass quiet with silent | ⟨before, pass, after, rfl, fires, silent⟩
  · -- The alarm would still be set, and time cannot have passed beyond it.
    obtain ⟨alarm, -, inTime, -⟩ :=
      inTime_of_silent (awaited_of_course course) sound happened accepts onward silent
    omega
  · obtain ⟨meanwhile, allowed, ringsNow, later⟩ := onward.split
    have awaited := awaited_of_course course.before_second
    obtain ⟨alarm, set, -, onTime⟩ :=
      inTime_of_silent awaited sound happened accepts meanwhile silent
    obtain ⟨ringing, rings, -, ringingSet, due⟩ :=
      exists_alarm_of_fires awaited.sound allowed fires
    obtain rfl := Option.some.inj (set.symm.trans ringingSet)
    refine ⟨before, pass, after, rfl, fires, onTime due, ?_⟩
    intro moment listed again
    rcases List.mem_append.mp listed with earlier | further
    · exact (silent moment earlier).noPass again
    · have dropped := alarm?_of_fires fires
      have unset : alarm? pass.after uri = none := by
        rw [ringsNow]
        exact dropped
      have soundAfter : Sound delay pass.after := by
        rw [ringsNow]
        exact awaited.sound.step pass.event
      refine no_pass_without_trigger soundAfter later unset ?_ moment further again
      intro moment listed
      exact (quiet moment (by simp [listed])).1

/-! ## Bursts -/

/-- Of the triggers of a document that are accepted among moments, each one follows the one before
it in less than some time. -/
def Hurried (uri : Uri) (time : Int) (moments : List AnnotatorMoment) : Prop :=
  ∀ past first between second rest, moments = past ++ first :: (between ++ second :: rest) →
    Accepts first.state first.event uri → Accepts second.state second.event uri →
    (∀ moment ∈ between, ¬ Accepts moment.state moment.event uri) →
    second.state.timeline.now < first.state.timeline.now + time

/-- The first of the moments that trigger. -/
theorem first_trigger {between : List AnnotatorMoment} {final : AnnotatorMoment}
    (accepts : Accepts final.state final.event uri) :
    ∃ before next after, between ++ [final] = before ++ next :: after ∧
      Accepts next.state next.event uri ∧
      ∀ moment ∈ before, ¬ Accepts moment.state moment.event uri := by
  rcases none_or_first (fun moment => Accepts moment.state moment.event uri) (between ++ [final])
    with noTrigger | first
  · exact absurd accepts (noTrigger final (by simp))
  · exact first

/-- The latest trigger before a moment of a burst belongs to the burst. -/
theorem latest_trigger_in_burst {burst earlier silent : List AnnotatorMoment}
    {opening trigger : AnnotatorMoment} (accepts : Accepts opening.state opening.event uri)
    (split : past ++ opening :: burst = earlier ++ trigger :: silent)
    (unheard : ∀ moment ∈ silent, Silent moment.state moment.event uri) :
    ∃ front, opening :: burst = front ++ trigger :: silent := by
  rcases List.append_eq_append_iff.mp split with ⟨front, -, inBurst⟩ | ⟨front, -, inPast⟩
  · exact ⟨front, inBurst⟩
  · cases front with
    | nil => exact ⟨[], inPast.symm⟩
    | cons moment front =>
        obtain ⟨-, rfl⟩ := List.cons.inj inPast
        exact absurd accepts (unheard opening (by simp)).noTrigger

theorem no_pass_in_burst {burst : List AnnotatorMoment} {opening final : AnnotatorMoment}
    {enabled : Bool} {cache : Cache}
    (course : Course process (AnnotatorRun.start delay enabled cache)
      (past ++ opening :: (burst ++ final :: rest)) last)
    (opens : Accepts opening.state opening.event uri) (ends : Accepts final.state final.event uri)
    (hurried : Hurried uri (max delay 0) (opening :: (burst ++ [final]))) :
    ∀ moment ∈ burst, ¬ Fires moment.state moment.event uri := by
  intro pass listed fires
  obtain ⟨before, after, rfl⟩ := List.append_of_mem listed
  rw [List.append_assoc, List.cons_append] at course
  obtain ⟨-, -, -, within⟩ := course.split
  obtain ⟨-, allowed, happened, onward⟩ := within.split
  obtain ⟨earlier, trigger, silent, split, accepts, onTime, unheard⟩ :=
    trigger_of_pass (awaited_of_course course.before_second) allowed fires
  obtain ⟨front, inBurst⟩ := latest_trigger_in_burst opens split unheard
  obtain ⟨waited, next, later, nextSplit, nextAccepts, noTrigger⟩ := first_trigger ends
  have close : next.state.timeline.now < trigger.state.timeline.now + max delay 0 := by
    refine hurried front trigger (silent ++ pass :: waited) next later ?_ accepts nextAccepts ?_
    · rw [List.append_assoc, List.cons_append, nextSplit, ← List.cons_append, inBurst]
      simp
    · intro moment among
      rcases List.mem_append.mp among with old | new
      · exact (unheard moment old).noTrigger
      · rcases List.mem_cons.mp new with rfl | further
        · exact fun again => not_fires_of_accepts again fires
        · exact noTrigger moment further
  -- The next trigger comes after the pass, so it cannot have been in time.
  have spread : after ++ final :: rest = waited ++ next :: (later ++ rest) := by
    rw [← List.singleton_append, ← List.append_assoc, nextSplit]
    simp
  rw [spread] at onward
  have passes : pass.state.timeline.now ≤ pass.after.timeline.now := by
    rw [happened]
    exact now_le_of_course (.next pass.event .start allowed)
  have goesOn := now_le_of_course onward.split.1
  omega

/-! ## The law -/

/-- A pass reads the text that its document has when it runs. -/
theorem acts_of_fires {document : Document} (sound : Sound delay run) (allowed : may run event)
    (fires : Fires run event uri) (isOpen : Keyed.get? run.documents uri = some document)
    (works : run.clockWorks = true) :
    (EachWritable document.text → (step run event).2 =
        [⟨uri, freshMarkers run.timeline.now document.text run.canvas.cache⟩]) ∧
      (¬EachWritable document.text → (step run event).2 = []) := by
  obtain ⟨alarm, rfl, document, set, -⟩ := exists_alarm_of_fires sound allowed fires
  have on : (run.canvas.annotator.disarm uri).enabled = true :=
    sound.orderly.enabled uri alarm set
  have clock : run.clock = some run.timeline.now := if_pos works
  change (EachWritable _ → (run.canvas.ring run.clock run.documents alarm).2 = _) ∧
    (¬EachWritable _ → (run.canvas.ring run.clock run.documents alarm).2 = _)
  rw [Canvas.ring_of_some document, clock]
  exact ⟨fun each => congrArg Prod.snd (Canvas.pass_of_open _ _ on isOpen each),
    fun one => congrArg Prod.snd (Canvas.pass_of_unwritable _ _ isOpen one)⟩

theorem alarm?_of_other_trigger {other : Uri} (accepts : Accepts run event other)
    (different : uri ≠ other) : alarm? (step run event).1 uri = alarm? run uri := by
  cases alarmChange run event uri with
  | set again =>
      cases accepts <;> cases again <;> exact absurd rfl different
  | dropped _ cause =>
      rcases cause with spoils | fires
      · cases accepts <;> cases spoils
      · cases accepts <;> cases fires
  | kept _ same => exact same

/-- Passes follow triggers.  A time to wait below zero is none. -/
structure FollowsTriggers (delay : Int) (moments : List AnnotatorMoment) (last : AnnotatorRun) :
    Prop where
  /-- A pass that an alarm starts has a trigger exactly the time to wait before it, with nothing in
  between. -/
  every_pass : ∀ past pass rest uri, moments = past ++ pass :: rest →
    Fires pass.state pass.event uri →
    ∃ earlier trigger between, past = earlier ++ trigger :: between ∧
      Accepts trigger.state trigger.event uri ∧
      pass.state.timeline.now = trigger.state.timeline.now + max delay 0 ∧
      ∀ moment ∈ between, Silent moment.state moment.event uri
  /-- A trigger that is not followed by another one and not spoiled has exactly one pass, at its
  time. -/
  every_trigger : ∀ past trigger between uri, moments = past ++ trigger :: between →
    Accepts trigger.state trigger.event uri →
    (∀ moment ∈ between, ¬ Accepts moment.state moment.event uri ∧
      ¬ Spoils moment.state moment.event uri) →
    trigger.state.timeline.now + max delay 0 < last.timeline.now →
    ∃ before pass after, between = before ++ pass :: after ∧
      Fires pass.state pass.event uri ∧
      pass.state.timeline.now = trigger.state.timeline.now + max delay 0 ∧
      ∀ moment ∈ before ++ after, ¬ Fires moment.state moment.event uri
  /-- In a burst of triggers no pass runs. -/
  bursts : ∀ past opening burst final rest uri,
    moments = past ++ opening :: (burst ++ final :: rest) →
    Accepts opening.state opening.event uri → Accepts final.state final.event uri →
    Hurried uri (max delay 0) (opening :: (burst ++ [final])) →
    ∀ moment ∈ opening :: (burst ++ [final]), ¬ Fires moment.state moment.event uri
  /-- A pass reads the text that its document has when it runs.  It draws nothing if a function of
  it cannot be looked up. -/
  current : ∀ pass ∈ moments, ∀ uri document, Fires pass.state pass.event uri →
    Keyed.get? pass.state.documents uri = some document → pass.state.clockWorks = true →
    (EachWritable document.text → pass.acts =
      [⟨uri, freshMarkers pass.state.timeline.now document.text pass.state.canvas.cache⟩]) ∧
    (¬EachWritable document.text → pass.acts = [])
  /-- The trigger of one document does not touch the alarm of another one. -/
  others : ∀ moment ∈ moments, ∀ uri other, Accepts moment.state moment.event other →
    uri ≠ other → alarm? moment.after uri = alarm? moment.state uri

theorem followsTriggers_of_course {enabled : Bool} {cache : Cache}
    (course : Course process (AnnotatorRun.start delay enabled cache) moments last) :
    FollowsTriggers delay moments last where
  every_pass := by
    rintro past pass rest uri rfl fires
    obtain ⟨before, allowed, -, -⟩ := course.split
    exact trigger_of_pass (awaited_of_course before) allowed fires
  every_trigger := by
    rintro past trigger between uri rfl accepts quiet passed
    exact pass_of_trigger course accepts quiet passed
  bursts := by
    rintro past opening burst final rest uri rfl opens ends hurried moment listed
    rcases List.mem_cons.mp listed with rfl | further
    · exact not_fires_of_accepts opens
    · rcases List.mem_append.mp further with within | atEnd
      · exact no_pass_in_burst course opens ends hurried moment within
      · rw [List.mem_singleton.mp atEnd]
        exact not_fires_of_accepts ends
  current := by
    intro pass listed uri document fires isOpen works
    obtain ⟨before, after, rfl⟩ := List.append_of_mem listed
    obtain ⟨upTo, allowed, happened, -⟩ := course.split
    rw [happened]
    exact acts_of_fires (awaited_of_course upTo).sound allowed fires isOpen works
  others := by
    intro moment listed uri other accepts different
    obtain ⟨before, after, rfl⟩ := List.append_of_mem listed
    obtain ⟨-, -, happened, -⟩ := course.split
    rw [happened]
    exact alarm?_of_other_trigger accepts different

/-- Passes follow triggers in every course of an annotator, and whatever is done with one in virtual
time is such a course. -/
theorem passes_follow_triggers (delay : Int) (enabled : Bool) (cache : Cache) :
    (∀ moments last, Course process (AnnotatorRun.start delay enabled cache) moments last →
      FollowsTriggers delay moments last) ∧
    ∀ (script : Script) (steps : List AnnotatorStep), ∃ moments,
      Plays (.start (AnnotatorRun.start delay enabled cache) script) (steps.flatMap ownStep) moments
        (steps.foldl (fun world step => (AnnotatorRun.stepIn world step).1)
          (.start (AnnotatorRun.start delay enabled cache) script)) :=
  ⟨fun _ _ course => followsTriggers_of_course course,
    fun _ steps => plays_steps ⟨rfl, rfl, rfl⟩ steps⟩

/-- An annotator with an empty cache that waits for half a second. -/
def quietAnnotator : AnnotatorRun :=
  AnnotatorRun.start 500000 true (.empty 5 ⟨1, Nat.one_pos⟩)

/-- A document comes into view, changes a little later, and is drawn half a second after that. -/
def changeInTime : List AnnotatorEvent :=
  [.step (.openDocument "u" "f"), .step (.activate "u"), .wait 200000, .step (.change "u"),
    .wait 700000, .ring ⟨700000, false, 1⟩]

/-- The law at work: the pass belongs to the change and not to the coming into view. -/
theorem passes_follow_triggers_of_change :
    ∃ past pass, process.moments quietAnnotator changeInTime = past ++ [pass] ∧
      pass.acts = [⟨"u", []⟩] ∧
      ∃ earlier trigger between, past = earlier ++ trigger :: between ∧
        Accepts trigger.state trigger.event "u" ∧
        pass.state.timeline.now = trigger.state.timeline.now + 500000 := by
  have allowed : process.Allows quietAnnotator changeInTime := by
    refine ⟨trivial, trivial, ?_, trivial, ?_, ?_, trivial⟩
    · change ∀ alarm ∈ alarms _, _
      decide +kernel
    · change ∀ alarm ∈ alarms _, _
      decide +kernel
    · change _ ∈ alarms _ ∧ _
      decide +kernel
  let past := process.moments quietAnnotator (changeInTime.take 5)
  let pass := process.moment (process.last quietAnnotator (changeInTime.take 5))
    (.ring ⟨700000, false, 1⟩)
  have whole : process.moments quietAnnotator changeInTime = past ++ [pass] := rfl
  have fires : Fires pass.state pass.event "u" := .ring (by decide +kernel)
  have ⟨law, _⟩ := passes_follow_triggers 500000 true (.empty 5 ⟨1, Nat.one_pos⟩)
  have follows := law _ _ (Process.course_of_allows allowed)
  obtain ⟨earlier, trigger, between, split, accepts, onTime, -⟩ :=
    follows.every_pass past pass [] "u" whole fires
  refine ⟨past, pass, whole, ?_, earlier, trigger, between, split, accepts, onTime⟩
  have listed : pass ∈ process.moments quietAnnotator changeInTime := by simp [whole]
  have drawn :=
    follows.current pass listed "u" ⟨"f", 1⟩ fires (by decide +kernel) (by decide +kernel)
  exact drawn.1 (eachWritable_of_not_hasSurrogate (Text.LooseText.not_hasSurrogate_ofString "f"))

end Debounce

end CodeComplexity
