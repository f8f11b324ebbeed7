import CodeComplexity.Proofs.Analysis.Settling
import CodeComplexity.Proofs.Session.Outcome
import CodeComplexity.Proofs.Verdict.Entries

/-!
# Hovers that overtake each other

A hover that has waited goes on if its number is still the latest one of its document, and gives up
otherwise.  The numbers of a document start anew when it is closed.  So what decides is how many
hovers on the document have started to wait since it was closed last: at the hover's beginning, and
when its time is over.  While the document stays open a newer hover makes an older one give up; but
once it has been closed the count can come back to what it was, and then the older hover goes on as
if there were no newer one.
-/

namespace CodeComplexity

namespace Session

variable {session first last : Session} {moments past rest : List SessionMoment}
  {moment : SessionMoment} {hover : SettlingHover Caller} {uri : Uri}

/-- A document that was open is open no more. -/
def closes (moment : SessionMoment) (uri : Uri) : Bool :=
  Keyed.has moment.state.documents uri && !Keyed.has moment.after.documents uri

def beginning (moment : SessionMoment) : List (SettlingHover Caller) :=
  moment.after.desk.settling.drop moment.state.desk.settling.length

/-- How many hovers on a document start to wait at a moment. -/
def countBeginning (moment : SessionMoment) (uri : Uri) : Nat :=
  (beginning moment).countP fun hover => hover.uri = uri

/-- How many hovers on a document have started to wait since it was closed last. -/
def waitsSinceClose (uri : Uri) (moments : List SessionMoment) : Nat :=
  moments.foldl (fun count moment =>
    if closes moment uri then 0 else count + countBeginning moment uri) 0

/-- The desk once a hover waits no longer. -/
def without (desk : Desk Caller) (hover : SettlingHover Caller) : Desk Caller :=
  { desk with settling := desk.settling.filter fun other => other.alarm ≠ hover.alarm }

/-- A hover gives up: its call ends with nothing, and nothing is asked for. -/
structure GivesUp (moment : SessionMoment) (hover : SettlingHover Caller) : Prop where
  acts : moment.acts = [.finish hover.caller.call (.ok (.hovered hover.uri none))]
  after : moment.after = { moment.state with desk := without moment.state.desk hover }

/-- A hover goes on: it asks for the verdict on its function. -/
def GoesOn (moment : SessionMoment) (hover : SettlingHover Caller) : Prop :=
  (moment.after, moment.acts) =
    moment.state.atDesk ((without moment.state.desk hover).seek moment.state.timeline.now
      ⟨hover.caller, .hover hover.span⟩ hover.code)

/-- A hover that goes on and finds neither a verdict nor a request of others sends a request. -/
theorem GoesOn.asks (goes : GoesOn moment hover)
    (uncached : (moment.state.desk.cache.get moment.state.timeline.now hover.code).1 = none)
    (unrequested : moment.state.desk.request? hover.code = none) :
    moment.acts = [.classify hover.code] := by
  have read := Cache.get_of_eq_none uncached
  have acts := congrArg Prod.snd goes
  simp only [Desk.seek, without, read] at acts
  split at acts
  · exact acts
  · next found => exact absurd (unrequested.symm.trans found) (by simp)
  · next found => exact absurd (unrequested.symm.trans found) (by simp)

/-! ## What an event does to the waiting hovers -/

/-- No document is closed, no hover starts to wait, and no number is given out. -/
structure Undisturbed (session after : Session) : Prop where
  isOpen (uri : Uri) : Keyed.has session.documents uri = true → Keyed.has after.documents uri = true
  calm : session.desk.Calm after.desk
  tickets : session.timeline.tickets ≤ after.timeline.tickets

theorem undisturbed_atDesk {change : Desk Caller × List (DeskAct Caller)}
    (calm : session.desk.Calm change.1) : session.Undisturbed (session.atDesk change).1 := by
  have rearms := session.rearms_atDesk change
  constructor
  · intro uri set
    rw [rearms.kept]
    exact set
  · rw [desk_atDesk]
    exact calm
  · exact rearms.tickets

/-- A document is closed, and its numbers are forgotten. -/
structure Closes (session after : Session) (uri : Uri) : Prop where
  wasOpen : Keyed.has session.documents uri = true
  documents : after.documents = session.documents.close uri
  desk : after.desk = session.desk.forget uri
  timeline : after.timeline = session.timeline

/-- A hover on an open document starts to wait. -/
structure Starts (session : Session) (hover : SettlingHover Caller)
    (change : Session × List SessionAct) : Prop where
  begins : ∃ number, session.desk.Begins session.timeline ⟨number, hover.uri⟩ hover.uri hover
    (change.1.desk, [])
  documents : change.1.documents = session.documents
  timeline : change.1.timeline = session.timeline.afterAlarm
  silent : change.2 = []

theorem starts_or_undisturbed_hover (number : Nat) (uri : Uri) (text : Text.LooseText)
    (position : Source.Position) :
    (∃ hover, session.Starts hover (session.afterAlarm.atDesk
      (session.desk.hover session.timeline ⟨number, uri⟩ uri text position))) ∨
    session.Undisturbed (session.afterAlarm.atDesk
      (session.desk.hover session.timeline ⟨number, uri⟩ uri text position)).1 := by
  have either := session.desk.hover_begins_or_calm session.timeline ⟨number, uri⟩ uri text position
  generalize session.desk.hover session.timeline ⟨number, uri⟩ uri text position = change at *
  rcases either with ⟨hover, begins⟩ | calm
  · left
    obtain ⟨desk, acts⟩ := change
    obtain rfl : acts = [] := begins.silent
    obtain rfl := begins.uri_eq
    exact ⟨hover, ⟨number, begins⟩, rfl, rfl, rfl⟩
  · right
    have undisturbed := session.afterAlarm.undisturbed_atDesk calm
    exact ⟨undisturbed.isOpen, undisturbed.calm, Nat.le_of_succ_le undisturbed.tickets⟩

/-- What an event does to the hovers that wait: a document is closed, a hover starts to wait, or
none of both. -/
theorem closes_starts_or_undisturbed (session : Session) (event : SessionEvent) :
    (∃ uri, session.Closes (session.step event).1 uri) ∨
    (∃ hover, session.Starts hover (session.step event)) ∨
    session.Undisturbed (session.step event).1 := by
  generalize result : session.step event = change
  have outcome := session.outcome event
  rw [result] at outcome
  cases outcome with
  | refused => exact .inr (.inr ⟨fun _ set => set, .refl _, Nat.le_refl _⟩)
  | opened number arguments uri text =>
      refine .inr (.inr ⟨?_, .refl _, Nat.le_succ _⟩)
      intro other isOpen
      exact (Keyed.has_set _ _ _ _).trans (by simp [isOpen])
  | updated number arguments isOpen text pending =>
      refine .inr (.inr ⟨?_, .refl _, Nat.le_succ _⟩)
      intro other set
      exact (Keyed.has_set _ _ _ _).trans (by simp [set])
  | closed number arguments isOpen =>
      rename_i uri document
      refine .inl ⟨uri, ?_, rfl, rfl, rfl⟩
      rw [Keyed.has, isOpen]
      rfl
  | hovered number arguments isOpen position =>
      right
      exact starts_or_undisturbed_hover _ _ _ _
  | selected number arguments isOpen range =>
      exact .inr (.inr (undisturbed_atDesk (session.desk.calm_analyzeSelection _ _ _ _)))
  | toggled => exact .inr (.inr ⟨fun _ set => set, ⟨.refl _, rfl⟩, Nat.le_refl _⟩)
  | listed => exact .inr (.inr ⟨fun _ set => set, .refl _, Nat.le_refl _⟩)
  | reported => exact .inr (.inr ⟨fun _ set => set, ⟨.refl _, rfl⟩, Nat.le_refl _⟩)
  | unreported => exact .inr (.inr ⟨fun _ set => set, ⟨.refl _, rfl⟩, Nat.le_refl _⟩)
  | asked => exact .inr (.inr ⟨fun _ set => set, .refl _, Nat.le_refl _⟩)
  | probeDropped => exact .inr (.inr ⟨fun _ set => set, .refl _, Nat.le_refl _⟩)
  | withdrawn => exact .inr (.inr (undisturbed_atDesk (session.desk.calm_withdraw _)))
  | woken => exact .inr (.inr (undisturbed_atDesk (session.desk.calm_ring _ _)))
  | drawn => exact .inr (.inr ⟨fun _ set => set, ⟨.refl _, rfl⟩, Nat.le_refl _⟩)
  | received => exact .inr (.inr ⟨fun _ set => set, session.desk.calm_receive _ _ _, Nat.le_refl _⟩)
  | handedOn => exact .inr (.inr (undisturbed_atDesk (session.desk.calm_handOn _)))
  | heard => exact .inr (.inr ⟨fun _ set => set, .refl _, Nat.le_refl _⟩)
  | ignored => exact .inr (.inr ⟨fun _ set => set, .refl _, Nat.le_refl _⟩)
  | waited => exact .inr (.inr ⟨fun _ set => set, .refl _, Nat.le_refl _⟩)
  | elsewhere => exact .inr (.inr ⟨fun _ set => set, .refl _, Nat.le_succ _⟩)

theorem moment_cases (happened : moment = process.moment moment.state moment.event) :
    (∃ uri, moment.state.Closes moment.after uri) ∨
    (∃ hover, moment.state.Starts hover (moment.after, moment.acts)) ∨
    moment.state.Undisturbed moment.after := by
  rw [happened]
  exact moment.state.closes_starts_or_undisturbed moment.event

/-! ## Numbers count -/

theorem waitsSinceClose_append (uri : Uri) (past : List SessionMoment) (moment : SessionMoment) :
    waitsSinceClose uri (past ++ [moment]) =
      if closes moment uri then 0 else waitsSinceClose uri past + countBeginning moment uri := by
  simp [waitsSinceClose]

theorem closes_eq_false
    (kept : Keyed.has moment.state.documents uri = true →
      Keyed.has moment.after.documents uri = true) : closes moment uri = false := by
  rw [closes]
  cases isOpen : Keyed.has moment.state.documents uri with
  | false => rfl
  | true => simp [kept isOpen]

theorem countBeginning_eq_zero
    (fewer : moment.after.desk.settling.Sublist moment.state.desk.settling) :
    countBeginning moment uri = 0 := by
  rw [countBeginning, beginning, List.drop_eq_nil_of_le fewer.length_le]
  rfl

/-- The latest number of each document is the number of hovers that have started to wait since it
was closed last, and every hover that waits can be told by its alarm. -/
structure Counted (moments : List SessionMoment) (session : Session) : Prop where
  latest (uri : Uri) : (Keyed.get? session.desk.numbers uri).getD 0 = waitsSinceClose uri moments
  ticketed : session.desk.Ticketed session.timeline.tickets
  numbered : ∀ hover ∈ session.desk.settling, hover.caller.uri = hover.uri ∧ 0 < hover.number

theorem Counted.undisturbed (counted : Counted past moment.state)
    (undisturbed : moment.state.Undisturbed moment.after) :
    Counted (past ++ [moment]) moment.after := by
  constructor
  · intro uri
    have stays := closes_eq_false (undisturbed.isOpen uri)
    rw [waitsSinceClose_append, stays, countBeginning_eq_zero undisturbed.calm.settling,
      undisturbed.calm.numbers, counted.latest]
    rfl
  · exact counted.ticketed.calm undisturbed.calm undisturbed.tickets
  · intro hover waits
    exact counted.numbered hover (undisturbed.calm.settling.subset waits)

theorem Counted.closes (counted : Counted past moment.state)
    (closed : moment.state.Closes moment.after uri) : Counted (past ++ [moment]) moment.after := by
  have settling : moment.after.desk.settling = moment.state.desk.settling := by
    rw [closed.desk]
    rfl
  constructor
  · intro other
    have fewer : moment.after.desk.settling.Sublist moment.state.desk.settling := by rw [settling]
    rw [waitsSinceClose_append, countBeginning_eq_zero fewer, closed.desk]
    change (Keyed.get? (Keyed.erase uri _) other).getD 0 = _
    rw [Keyed.get?_erase]
    by_cases same : other = uri
    · subst same
      have gone : Session.closes moment other = true := by
        rw [Session.closes, closed.wasOpen, closed.documents, Documents.close, Keyed.has_erase]
        simp
      simp [gone]
    · have stays : Session.closes moment other = false := by
        apply closes_eq_false
        intro isOpen
        rw [closed.documents, Documents.close, Keyed.has_erase, isOpen]
        simp [same]
      simp [same, stays, counted.latest]
  · have calm : moment.state.desk.Ticketed moment.after.timeline.tickets := by
      rw [closed.timeline]
      exact counted.ticketed
    rw [closed.desk]
    exact ⟨calm.nodup, calm.earlier⟩
  · rw [settling]
    exact counted.numbered

theorem Starts.beginning (starts : moment.state.Starts hover (moment.after, moment.acts)) :
    Session.beginning moment = [hover] := by
  obtain ⟨number, begins⟩ := starts.begins
  rw [Session.beginning, begins.settling, List.drop_left]

theorem Counted.starts (counted : Counted past moment.state)
    (starts : moment.state.Starts hover (moment.after, moment.acts)) :
    Counted (past ++ [moment]) moment.after ∧
      hover.number = waitsSinceClose hover.uri (past ++ [moment]) := by
  obtain ⟨number, begins⟩ := starts.begins
  have stays (uri : Uri) : Session.closes moment uri = false := by
    apply closes_eq_false
    intro isOpen
    rw [starts.documents]
    exact isOpen
  have counts (uri : Uri) : waitsSinceClose uri (past ++ [moment]) =
      waitsSinceClose uri past + if hover.uri = uri then 1 else 0 := by
    rw [waitsSinceClose_append, stays, countBeginning, starts.beginning]
    by_cases same : hover.uri = uri <;> simp [same]
  have number_eq : hover.number = waitsSinceClose hover.uri (past ++ [moment]) := by
    rw [counts, begins.number_eq, Desk.nextNumber, counted.latest]
    simp
  refine ⟨⟨?_, ?_, ?_⟩, number_eq⟩
  · intro uri
    rw [begins.numbers, Keyed.get?_set]
    by_cases same : uri = hover.uri
    · subst same
      simp [number_eq]
    · simp [counts, same, Ne.symm same, counted.latest]
  · rw [starts.timeline]
    exact counted.ticketed.begins begins
  · intro other waits
    rw [begins.settling, List.mem_append] at waits
    rcases waits with older | newest
    · exact counted.numbered other older
    · obtain rfl := List.mem_singleton.mp newest
      rw [begins.caller_eq, begins.number_eq]
      exact ⟨rfl, Nat.succ_pos _⟩

theorem Counted.step (counted : Counted past moment.state)
    (happened : moment = process.moment moment.state moment.event) :
    Counted (past ++ [moment]) moment.after := by
  rcases moment_cases happened with ⟨uri, closed⟩ | ⟨hover, starts⟩ | undisturbed
  · exact counted.closes closed
  · exact (counted.starts starts).1
  · exact counted.undisturbed undisturbed

theorem counted_of_course {settings : Settings} {acts : List SessionAct}
    (started : start? settings = some (first, acts)) (course : Course process first moments last) :
    Counted moments last := by
  refine course.history ?_ fun past state event _ _ counted => Counted.step counted rfl
  obtain ⟨hoverDelay, timeToLive, rfl⟩ := start?_eq_some started
  exact ⟨fun _ => rfl, ⟨List.nodup_nil, by simp [Desk.start]⟩, by simp [Desk.start]⟩

/-- As long as a document stays open, its count does not fall. -/
theorem le_waitsSinceClose_append {middle : List SessionMoment}
    (stays : ∀ moment ∈ middle, closes moment uri = false) :
    waitsSinceClose uri past ≤ waitsSinceClose uri (past ++ middle) := by
  induction middle using List.reverseRecOn with
  | nil => simp
  | append_singleton middle final ih =>
      have before := ih fun moment listed => stays moment (List.mem_append_left _ listed)
      have here : closes final uri = false := stays final (by simp)
      rw [← List.append_assoc, waitsSinceClose_append, here]
      exact Nat.le_trans before (Nat.le_add_right _ _)

/-- As long as a document stays open, its count stays the same if no hover starts to wait. -/
theorem waitsSinceClose_append_of_still {middle : List SessionMoment}
    (stays : ∀ moment ∈ middle, closes moment uri = false)
    (still : ∀ moment ∈ middle, countBeginning moment uri = 0) :
    waitsSinceClose uri (past ++ middle) = waitsSinceClose uri past := by
  induction middle using List.reverseRecOn with
  | nil => rw [List.append_nil]
  | append_singleton middle final ih =>
      have before := ih (fun moment listed => stays moment (List.mem_append_left _ listed))
        fun moment listed => still moment (List.mem_append_left _ listed)
      have here : closes final uri = false := stays final (by simp)
      rw [← List.append_assoc, waitsSinceClose_append, here, still final (by simp)]
      exact before

/-- As long as a document stays open, its count grows when a hover starts to wait. -/
theorem lt_waitsSinceClose_append (past : List SessionMoment) {middle : List SessionMoment}
    (stays : ∀ moment ∈ middle, closes moment uri = false) (listed : moment ∈ middle)
    (counts : 0 < countBeginning moment uri) :
    waitsSinceClose uri past < waitsSinceClose uri (past ++ middle) := by
  obtain ⟨before, after, rfl⟩ := List.append_of_mem listed
  have here := stays moment listed
  calc
    waitsSinceClose uri past ≤ waitsSinceClose uri (past ++ before) := by
      apply le_waitsSinceClose_append
      intro earlier among
      exact stays earlier (List.mem_append_left _ among)
    _ < waitsSinceClose uri (past ++ before ++ [moment]) := by
      rw [waitsSinceClose_append, here]
      exact Nat.lt_add_of_pos_right counts
    _ ≤ waitsSinceClose uri (past ++ before ++ [moment] ++ after) := by
      apply le_waitsSinceClose_append
      intro later among
      exact stays later (by simp [among])
    _ = waitsSinceClose uri (past ++ (before ++ moment :: after)) := by
      simp

theorem isLatest_iff (counted : Counted moments session) (waits : hover ∈ session.desk.settling) :
    session.desk.isLatest hover = true ↔ waitsSinceClose hover.uri moments = hover.number := by
  have latest := counted.latest hover.uri
  have positive := (counted.numbered hover waits).2
  rw [Desk.isLatest, beq_iff_eq]
  cases given : Keyed.get? session.desk.numbers hover.uri with
  | none =>
      rw [given] at latest
      simp only [Option.getD_none] at latest
      simp only [reduceCtorEq, false_iff]
      omega
  | some number =>
      rw [given] at latest
      simp only [Option.getD_some] at latest
      simp [latest]

/-- When the time of a hover is over, it goes on or gives up by its number. -/
theorem ring_of_waits (counted : Counted moments session) (waits : hover ∈ session.desk.settling) :
    session.step (.ring hover.alarm) =
      session.atDesk (if waitsSinceClose hover.uri moments = hover.number
        then (without session.desk hover).seek session.timeline.now
          ⟨hover.caller, .hover hover.span⟩ hover.code
        else (without session.desk hover, [.give hover.caller (.ok (.function none))])) := by
  have owned : session.desk.owns hover.alarm = true :=
    List.any_eq_true.mpr ⟨hover, waits, by simp⟩
  have found := counted.ticketed.find?_alarm waits
  have decides := isLatest_iff counted waits
  change session.ring hover.alarm = _
  rw [ring, if_pos owned, Desk.ring, found]
  by_cases latest : waitsSinceClose hover.uri moments = hover.number
  · simp only [decides.mpr latest, latest, if_true, without]
  · have overtaken : session.desk.isLatest hover = false := by
      rw [Bool.eq_false_iff, ne_eq, decides]
      exact latest
    simp only [overtaken, latest, if_false, without, Bool.false_eq_true]

theorem starts_of_beginning (happened : moment = process.moment moment.state moment.event)
    (begins : hover ∈ beginning moment) :
    moment.state.Starts hover (moment.after, moment.acts) := by
  rcases moment_cases happened with ⟨uri, closed⟩ | ⟨other, starts⟩ | undisturbed
  · rw [beginning, closed.desk] at begins
    simp [Desk.forget] at begins
  · rw [starts.beginning, List.mem_singleton] at begins
    rw [begins]
    exact starts
  · rw [beginning, List.drop_eq_nil_of_le undisturbed.calm.settling.length_le] at begins
    simp at begins

/-- When the time of a hover is over, it goes on if as many hovers on its document have started to
wait since the document was closed last as at its beginning, and gives up otherwise. -/
theorem goesOn_or_givesUp {settings : Settings} {acts : List SessionAct}
    (started : start? settings = some (first, acts)) {middle : List SessionMoment}
    {begun woken : SessionMoment}
    (course : Course process first (past ++ begun :: (middle ++ woken :: rest)) last)
    (begins : hover ∈ beginning begun) (waits : hover ∈ woken.state.desk.settling)
    (wakes : woken.event = .ring hover.alarm) :
    (waitsSinceClose hover.uri (past ++ begun :: middle) ≠
      waitsSinceClose hover.uri (past ++ [begun]) → GivesUp woken hover) ∧
    (waitsSinceClose hover.uri (past ++ begun :: middle) =
      waitsSinceClose hover.uri (past ++ [begun]) → GoesOn woken hover) := by
  obtain ⟨before, -, begunHappened, onward⟩ := course.split
  obtain ⟨-, -, wokenHappened, -⟩ := onward.split
  have atWaking := counted_of_course started course.before_second
  have number_eq := ((counted_of_course started before).starts
    (starts_of_beginning begunHappened begins)).2
  have change : (woken.after, woken.acts) = woken.state.step (.ring hover.alarm) := by
    rw [wokenHappened, ← wakes]
    rfl
  rw [ring_of_waits atWaking waits, number_eq] at change
  constructor
  · intro overtaken
    rw [if_neg overtaken] at change
    have named := (atWaking.numbered hover waits).1
    constructor
    · rw [← named]
      exact congrArg Prod.snd change
    · exact congrArg Prod.fst change
  · intro same
    rw [if_pos same] at change
    exact change

/-- While a document stays open, its count is another one once a newer hover has started to wait. -/
theorem waitsSinceClose_ne_of_newer {middle : List SessionMoment} {begun : SessionMoment}
    (stays : ∀ moment ∈ middle, closes moment uri = false)
    (newer : ∃ moment ∈ middle, ∃ newer ∈ beginning moment, newer.uri = uri) :
    waitsSinceClose uri (past ++ begun :: middle) ≠ waitsSinceClose uri (past ++ [begun]) := by
  obtain ⟨moment, listed, newer, startsToWait, sameDocument⟩ := newer
  have counts : 0 < countBeginning moment uri :=
    List.countP_pos_iff.mpr ⟨newer, startsToWait, by simp [sameDocument]⟩
  have grows := lt_waitsSinceClose_append (past ++ [begun]) stays listed counts
  rw [List.append_assoc, List.singleton_append] at grows
  exact Nat.ne_of_gt grows

/-- A hover that has waited goes on if as many hovers on its document have started to wait since the
document was closed last as at its beginning, and gives up otherwise.  So a newer hover makes it
give up, unless the document is closed in between. -/
theorem overtaken_hover {settings : Settings} {acts : List SessionAct}
    (started : start? settings = some (first, acts)) {middle : List SessionMoment}
    {begun woken : SessionMoment}
    (course : Course process first (past ++ begun :: (middle ++ woken :: rest)) last)
    (begins : hover ∈ beginning begun) (waits : hover ∈ woken.state.desk.settling)
    (wakes : woken.event = .ring hover.alarm) :
    begun.acts = [] ∧ hover.span.text = .ofString hover.code ∧
      hover.alarm.due = begun.state.timeline.now + begun.state.desk.hoverDelay ∧
    (waitsSinceClose hover.uri (past ++ begun :: middle) ≠
      waitsSinceClose hover.uri (past ++ [begun]) → GivesUp woken hover) ∧
    (waitsSinceClose hover.uri (past ++ begun :: middle) =
      waitsSinceClose hover.uri (past ++ [begun]) →
      GoesOn woken hover ∧
      ((woken.state.desk.cache.get woken.state.timeline.now hover.code).1 = none →
        woken.state.desk.request? hover.code = none →
        woken.acts = [.classify hover.code])) ∧
    ((∀ moment ∈ middle, closes moment hover.uri = false) →
      (∃ moment ∈ middle, ∃ newer ∈ beginning moment, newer.uri = hover.uri) →
      GivesUp woken hover) := by
  obtain ⟨before, -, begunHappened, -⟩ := course.split
  have starts := starts_of_beginning begunHappened begins
  obtain ⟨number, begin⟩ := starts.begins
  obtain ⟨givesUp, goesOn⟩ := goesOn_or_givesUp started course begins waits wakes
  refine ⟨starts.silent, begin.text_eq, ?_, givesUp, ?_, ?_⟩
  · rw [begin.alarm_eq]
    rfl
  · intro same
    exact ⟨goesOn same, (goesOn same).asks⟩
  · intro stays newer
    exact givesUp (waitsSinceClose_ne_of_newer stays newer)

def onFunction : Json :=
  .obj [("uri", .str "u"), ("line", .int 0)]

/-- The document is closed and opened again, and then the cursor comes back to its function. -/
def reopening : List SessionEvent :=
  [.wait 100000, .call 2 .closeDocument oneFunction, .call 3 .openDocument oneFunction,
    .call 4 .hover onFunction, .wait 300000]

/-- The hover that starts to wait before that. -/
def firstHover : SettlingHover Caller :=
  let code := "function f(a) \x7b\n\x7d"
  ⟨⟨1, "u"⟩, "u", ⟨0, 1, code, by decide⟩, code, 1, ⟨300000, true, 1⟩⟩

/-- The count at work: the document was closed in between, so a newer hover does not keep the older
one from sending a request. -/
theorem overtaken_hover_reopened :
    ∃ past begun middle woken,
      Course process fresh (past ++ begun :: (middle ++ [woken])) woken.after ∧
      firstHover ∈ beginning begun ∧
      (∃ moment ∈ middle, ∃ newer ∈ beginning moment, newer.uri = firstHover.uri) ∧
      woken.event = .ring firstHover.alarm ∧ woken.acts = [.classify firstHover.code] := by
  let opened := process.moment fresh (.call 0 .openDocument oneFunction)
  let begun := process.moment opened.after (.call 1 .hover onFunction)
  let middle := process.moments begun.after reopening
  let woken := process.moment (process.last begun.after reopening) (.ring firstHover.alarm)
  have course : Course process fresh ([opened] ++ begun :: (middle ++ [woken])) woken.after :=
    Process.course_of_allows (show process.Allows fresh ([.call 0 .openDocument oneFunction,
      .call 1 .hover onFunction] ++ reopening ++ [.ring firstHover.alarm]) from
      ⟨trivial, trivial, trivial, trivial, trivial, trivial, trivial, trivial, trivial⟩)
  have begins : firstHover ∈ beginning begun := by decide +kernel
  have overtaken : ∃ moment ∈ middle, ∃ newer ∈ beginning moment, newer.uri = firstHover.uri := by
    decide +kernel
  have waits : firstHover ∈ woken.state.desk.settling := by decide +kernel
  have same : waitsSinceClose firstHover.uri ([opened] ++ begun :: middle) =
      waitsSinceClose firstHover.uri ([opened] ++ [begun]) := by decide +kernel
  have uncached : (woken.state.desk.cache.get woken.state.timeline.now
      firstHover.code).1 = none := Option.isNone_iff_eq_none.mp (by decide +kernel)
  have unrequested : woken.state.desk.request? firstHover.code = none :=
    Option.isNone_iff_eq_none.mp (by decide +kernel)
  have ⟨_, _, _, _, goesOn, _⟩ :=
    overtaken_hover (show start? fresh.settings = some (fresh, [.probe none]) from rfl)
    course begins waits rfl
  exact ⟨[opened], begun, middle, woken, course, begins, overtaken, rfl,
    (goesOn same).2 uncached unrequested⟩

end Session

end CodeComplexity
