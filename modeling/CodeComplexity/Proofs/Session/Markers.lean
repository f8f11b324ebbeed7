import CodeComplexity.Proofs.Marking.Passes
import CodeComplexity.Proofs.Session.Outcome

/-!
# The markers of the document in view

While annotations are enabled, whatever changes the text of the document in view or brings another
document into view sets an alarm, and a pass runs when it rings.  So as long as no alarm is set for
the document in view, its markers are those that the latest pass over it drew, and the text has not
changed since: nothing stale is shown.  Only a pass that fails, because a function of the document
cannot be looked up, leaves the markers as they were.
-/

namespace CodeComplexity

open Source Text

namespace Session

variable {session first last : Session} {moments past rest : List SessionMoment}
  {moment : SessionMoment} {event : SessionEvent} {uri : Uri} {document : Document}

/-- A pass over a document runs: its alarm rings, or annotations are enabled while it is in view. -/
inductive Passes (session : Session) : SessionEvent → Uri → Prop where
  | alarm {alarm : Alarm} {uri : Uri} (other : session.desk.owns alarm = false)
      (due : session.annotator.documentOf? alarm = some uri) : Passes session (.ring alarm) uri
  | enabling {number : Nat} {arguments : Json} {uri : Uri}
      (disabled : session.annotator.enabled = false)
      (active : session.annotator.active = some uri) :
      Passes session (.call number .toggleAnnotations arguments) uri

/-- Annotations are enabled, and a document is in view for which no alarm is set. -/
structure Idle (session : Session) (uri : Uri) : Prop where
  enabled : session.annotator.enabled = true
  active : session.annotator.active = some uri
  unset : session.annotator.isPending uri = false

/-- The markers of a document are those that the latest pass over it left, and it is still as it was
then. -/
def DrawnLast (moments : List SessionMoment) (session : Session) (uri : Uri) (document : Document) :
    Prop :=
  ∃ past pass rest, moments = past ++ pass :: rest ∧ Passes pass.state pass.event uri ∧
    (∀ later ∈ rest, ¬ Passes later.state later.event uri) ∧
    Keyed.get? pass.state.documents uri = some document ∧
    Redrawn pass.state.timeline.now document.text pass.state.desk.cache
      (pass.state.board.markersOf uri) (session.board.markersOf uri)

/-- The document in view is open. -/
def ShowsOpen (session : Session) : Prop :=
  ∀ uri, session.annotator.active = some uri → Keyed.has session.documents uri = true

/-- A document that is idle was so before, and neither its text nor its markers have changed. -/
structure Steady (before after : Session) (uri : Uri) : Prop where
  idle : before.Idle uri
  document : Keyed.get? after.documents uri = Keyed.get? before.documents uri
  markers : after.board.markersOf uri = before.board.markersOf uri

/-- A pass over a document ran just now. -/
structure Drawn (before after : Session) (uri : Uri) : Prop where
  document : Keyed.get? after.documents uri = Keyed.get? before.documents uri
  markers : ∀ document, Keyed.get? before.documents uri = some document →
    Redrawn before.timeline.now document.text before.desk.cache (before.board.markersOf uri)
      (after.board.markersOf uri)

/-- Where annotator, documents and board are left alone, all documents are. -/
theorem Steady.of_same {before after : Session} (annotator : after.annotator = before.annotator)
    (documents : after.documents = before.documents) (board : after.board = before.board)
    (idle : after.Idle uri) : before.Steady after uri := by
  constructor
  · constructor
    · rw [← annotator]
      exact idle.enabled
    · rw [← annotator]
      exact idle.active
    · rw [← annotator]
      exact idle.unset
  · rw [documents]
  · rw [board]

theorem Steady.trans {before middle after : Session} (first : before.Steady middle uri)
    (second : middle.Steady after uri) : before.Steady after uri := by
  constructor
  · exact first.idle
  · exact second.document.trans first.document
  · exact second.markers.trans first.markers

theorem Rearms.steady {before after : Session} (rearms : before.Rearms after)
    (idle : after.Idle uri) : before.Steady after uri := by
  have kept := rearms.kept
  refine ⟨⟨?_, ?_, ?_⟩, ?_, ?_⟩
  · have enabled := idle.enabled
    rw [kept] at enabled
    exact enabled
  · have active := idle.active
    rw [kept] at active
    exact active
  · rw [Bool.eq_false_iff]
    intro set
    have still := rearms.pending uri set
    rw [idle.unset] at still
    cases still
  · rw [kept]
  · rw [kept]

theorem steady_atDesk {change : Desk Caller × List (DeskAct Caller)}
    (idle : (session.atDesk change).1.Idle uri) :
    session.Steady (session.atDesk change).1 uri := by
  have steady := (session.rearms_atDesk change).steady idle
  have same : session.Steady { session with desk := change.1 } uri :=
    .of_same rfl rfl rfl steady.idle
  exact same.trans steady

theorem board_paint (session : Session) (change : Canvas × List Redraw) :
    (session.paint change).board = change.2.foldl Board.redraw session.board := rfl

theorem redrawn_paint_pass {annotator : Annotator} (enabled : annotator.enabled = true)
    (isOpen : Keyed.get? session.documents uri = some document) :
    Redrawn session.timeline.now document.text session.desk.cache (session.board.markersOf uri)
      ((session.paint ((Canvas.mk annotator session.desk.cache).pass (some session.timeline.now)
        session.documents uri)).board.markersOf uri) := by
  rw [board_paint]
  constructor
  · intro each
    rw [Canvas.pass_of_open _ _ enabled isOpen each, List.foldl_cons, List.foldl_nil,
      Board.markersOf_redraw, if_pos rfl]
  · intro one
    rw [Canvas.pass_of_unwritable _ _ isOpen one, List.foldl_nil]

theorem drawn_ring {alarm : Alarm} (due : session.annotator.documentOf? alarm = some uri)
    (idle : (session.paint (session.canvas.ring (some session.timeline.now) session.documents
      alarm)).Idle uri) :
    session.Drawn (session.paint (session.canvas.ring (some session.timeline.now)
      session.documents alarm)) uri := by
  rw [Canvas.ring_of_some due] at idle ⊢
  obtain ⟨-, drawn, annotator⟩ := Canvas.pass_still
    ⟨session.annotator.disarm uri, session.desk.cache⟩ (some session.timeline.now)
    session.documents uri
  have enabled : session.annotator.enabled = true :=
    (congrArg Annotator.enabled annotator).symm.trans idle.enabled
  constructor
  · rfl
  · intro document isOpen
    exact redrawn_paint_pass enabled isOpen

theorem steady_ring {alarm : Alarm} (other : session.annotator.documentOf? alarm ≠ some uri)
    (idle : (session.paint (session.canvas.ring (some session.timeline.now) session.documents
      alarm)).Idle uri) :
    session.Steady (session.paint (session.canvas.ring (some session.timeline.now)
      session.documents alarm)) uri := by
  cases due : session.annotator.documentOf? alarm with
  | none =>
      rw [Canvas.ring_of_none due] at idle ⊢
      exact .of_same rfl rfl rfl idle
  | some ringing =>
      have different : ringing ≠ uri := by
        intro same
        exact other (same ▸ due)
      rw [Canvas.ring_of_some due] at idle ⊢
      obtain ⟨only, drawn, annotator⟩ := Canvas.pass_still
        ⟨session.annotator.disarm ringing, session.desk.cache⟩ (some session.timeline.now)
        session.documents ringing
      have unset : (session.annotator.disarm ringing).isPending uri = false :=
        (congrArg (Annotator.isPending · uri) annotator).symm.trans idle.unset
      rw [Annotator.isPending_disarm] at unset
      constructor
      · constructor
        · exact (congrArg Annotator.enabled annotator).symm.trans idle.enabled
        · exact (congrArg Annotator.active annotator).symm.trans idle.active
        · simpa [Ne.symm different] using unset
      · rfl
      · rw [board_paint]
        apply Board.markersOf_foldl_redraw
        intro change listed
        rw [only change listed]
        exact different

/-- A document that is idle after annotations were toggled was in view, and they were disabled. -/
theorem shown_of_toggle (idle : (session.paint (session.canvas.setEnabled
      (some session.timeline.now) session.documents (!session.annotator.enabled))).Idle uri) :
    session.annotator.enabled = false ∧ session.annotator.active = some uri := by
  constructor
  · cases on : session.annotator.enabled with
    | false => rfl
    | true =>
        rw [on, Bool.not_true, Canvas.setEnabled_false on] at idle
        cases idle.enabled
  · exact (Canvas.active_setEnabled _ _ _ _).symm.trans idle.active

theorem drawn_toggle (off : session.annotator.enabled = false)
    (shown : session.annotator.active = some uri) :
    session.Drawn (session.paint (session.canvas.setEnabled (some session.timeline.now)
      session.documents (!session.annotator.enabled))) uri := by
  rw [off, Bool.not_false, Canvas.setEnabled_true_of_some off shown]
  constructor
  · rfl
  · intro document isOpen
    exact redrawn_paint_pass rfl isOpen

theorem drawn_of_passes (passes : Passes session event uri)
    (idle : (session.step event).1.Idle uri) : session.Drawn (session.step event).1 uri := by
  cases passes with
  | enabling disabled active => exact drawn_toggle disabled active
  | alarm other due =>
      rename_i alarm
      have rings : session.step (.ring alarm) = (session.paint (session.canvas.ring
          (some session.timeline.now) session.documents alarm), []) := by
        change session.ring alarm = _
        rw [ring, other]
        rfl
      rw [rings] at idle ⊢
      exact drawn_ring due idle

/-- Without a pass nothing changes for a document that is idle afterwards. -/
theorem steady_of_not_passes (quiet : ¬ Passes session event uri)
    (idle : (session.step event).1.Idle uri) : session.Steady (session.step event).1 uri := by
  generalize result : session.step event = change at idle ⊢
  have outcome := session.outcome event
  rw [result] at outcome
  cases outcome with
  | refused => exact .of_same rfl rfl rfl idle
  | opened number arguments other text =>
      -- The document that was opened is in view now and has its alarm.
      have shown :=
        (session.annotator.active_activate session.timeline other).symm.trans idle.active
      obtain rfl := Option.some.inj shown
      have on := (session.annotator.enabled_activate session.timeline other).symm.trans idle.enabled
      have set := Annotator.isPending_activate on session.timeline other
      have unset := set.symm.trans idle.unset
      cases unset
  | updated number arguments isOpen text pending =>
      rename_i other document
      have steady := (rearms_noteChange _ _).steady idle
      have different : uri ≠ other := by
        intro same
        subst same
        have set := Annotator.isPending_change steady.idle.enabled steady.idle.active
          session.timeline
        have unset := set.symm.trans idle.unset
        cases unset
      constructor
      · exact ⟨steady.idle.enabled, steady.idle.active, steady.idle.unset⟩
      · rw [steady.document, Keyed.get?_set, if_neg different]
      · exact steady.markers
  | closed number arguments isOpen =>
      rename_i other document
      have active := idle.active
      simp only [Annotator.close] at active
      split at active
      · cases active
      · next shown =>
        have different : uri ≠ other := by
          intro same
          exact shown (same ▸ active)
        have unset : (session.annotator.disarm other).isPending uri = false := idle.unset
        rw [Annotator.isPending_disarm] at unset
        constructor
        · constructor
          · exact idle.enabled
          · exact active
          · simpa [different] using unset
        · exact (Keyed.get?_erase _ _ _).trans (if_neg different)
        · exact (session.board.markersOf_redraw ⟨other, []⟩ uri).trans (if_neg different)
  | hovered number arguments isOpen position =>
      have steady := steady_atDesk idle
      have same : session.Steady session.afterAlarm uri := .of_same rfl rfl rfl steady.idle
      exact same.trans steady
  | selected => exact steady_atDesk idle
  | toggled number arguments =>
      obtain ⟨off, shown⟩ := shown_of_toggle idle
      exact absurd (Passes.enabling off shown) quiet
  | listed => exact .of_same rfl rfl rfl idle
  | reported => exact .of_same rfl rfl rfl idle
  | unreported => exact .of_same rfl rfl rfl idle
  | asked => exact .of_same rfl rfl rfl idle
  | probeDropped => exact .of_same rfl rfl rfl idle
  | withdrawn => exact steady_atDesk idle
  | woken => exact steady_atDesk idle
  | drawn other =>
      refine steady_ring ?_ idle
      intro due
      exact quiet (.alarm other due)
  | received => exact .of_same rfl rfl rfl idle
  | handedOn => exact steady_atDesk idle
  | heard => exact .of_same rfl rfl rfl idle
  | ignored => exact .of_same rfl rfl rfl idle
  | waited => exact .of_same rfl rfl rfl idle
  | elsewhere => exact .of_same rfl rfl rfl idle

/-! ## The document in view is open -/

theorem Rearms.showsOpen {before after : Session} (rearms : before.Rearms after)
    (shows : before.ShowsOpen) : after.ShowsOpen := by
  intro uri active
  rw [rearms.kept] at active ⊢
  exact shows uri active

theorem ShowsOpen.atDesk (shows : session.ShowsOpen)
    (change : Desk Caller × List (DeskAct Caller)) : (session.atDesk change).1.ShowsOpen :=
  (session.rearms_atDesk change).showsOpen shows

/-- Setting a document, which may be the one in view, leaves the one in view open. -/
theorem has_set_of_showsOpen (shows : session.ShowsOpen) (other : Uri) (document : Document)
    (active : session.annotator.active = some uri) :
    Keyed.has (Keyed.set other document session.documents) uri = true := by
  rw [Keyed.has_set, shows uri active, Bool.or_true]

theorem ShowsOpen.step (shows : session.ShowsOpen) (event : SessionEvent) :
    (session.step event).1.ShowsOpen := by
  generalize result : session.step event = change
  have outcome := session.outcome event
  rw [result] at outcome
  cases outcome with
  | refused => exact shows
  | opened number arguments other text =>
      intro uri active
      have shown := (session.annotator.active_activate session.timeline other).symm.trans active
      obtain rfl := Option.some.inj shown
      exact (Keyed.has_set _ _ _ _).trans (by simp)
  | updated number arguments isOpen text pending =>
      refine (rearms_noteChange _ _).showsOpen ?_
      exact fun uri active => has_set_of_showsOpen shows _ _ active
  | closed number arguments isOpen =>
      rename_i other document
      intro uri active
      simp only [Annotator.close] at active
      split at active
      · cases active
      · next shown =>
        have different : uri ≠ other := by
          rintro rfl
          exact shown active
        exact (Keyed.has_erase _ _ _).trans (by simp [different, shows uri active])
  | hovered => exact (show session.afterAlarm.ShowsOpen from shows).atDesk _
  | selected => exact shows.atDesk _
  | toggled =>
      intro uri active
      exact shows uri ((Canvas.active_setEnabled _ _ _ _).symm.trans active)
  | listed => exact shows
  | reported => exact shows
  | unreported => exact shows
  | asked => exact shows
  | probeDropped => exact shows
  | withdrawn => exact shows.atDesk _
  | woken => exact shows.atDesk _
  | drawn =>
      intro uri active
      exact shows uri ((Canvas.active_ring _ _ _ _).symm.trans active)
  | received => exact shows
  | handedOn => exact shows.atDesk _
  | heard => exact shows
  | ignored => exact shows
  | waited => exact shows
  | elsewhere => exact shows

/-! ## The law -/

/-- The document in view is open, and what is to be seen of it while it is idle was drawn last. -/
structure UpToDate (moments : List SessionMoment) (session : Session) : Prop where
  shows : session.ShowsOpen
  drawn : ∀ uri document, session.Idle uri → Keyed.get? session.documents uri = some document →
    DrawnLast moments session uri document

theorem UpToDate.step (upToDate : UpToDate past session) (event : SessionEvent) :
    UpToDate (past ++ [process.moment session event]) (process.moment session event).after := by
  refine ⟨upToDate.shows.step event, ?_⟩
  intro uri document idle isOpen
  by_cases passes : Passes session event uri
  · have drawn := drawn_of_passes passes idle
    have before := drawn.document.symm.trans isOpen
    exact ⟨past, process.moment session event, [], rfl, passes, by simp, before,
      drawn.markers document before⟩
  · have steady := steady_of_not_passes passes idle
    have before := steady.document.symm.trans isOpen
    obtain ⟨earlier, pass, rest, rfl, drew, noneLater, sameText, markers⟩ :=
      upToDate.drawn uri document steady.idle before
    refine ⟨earlier, pass, rest ++ [process.moment session event], by simp, drew, ?_, sameText,
      steady.markers ▸ markers⟩
    intro later listed
    rcases List.mem_append.mp listed with old | new
    · exact noneLater later old
    · rw [List.mem_singleton.mp new]
      exact passes

def simpleReply : Reply :=
  .response 200 ("\x7b\"complexity\": \"simple\", \"confidence\": 0.5, \"processing_time_ms\": 1, "
    ++ "\"metrics\": \x7b\"loc\": 2, \"cyclomatic\": 1, \"nesting\": 1, \"loops\": 0, "
    ++ "\"conditionals\": 0\x7d\x7d").toUTF8.toList 1000

/-- A document is opened and analysed, and its alarm rings. -/
def analysis : List SessionEvent :=
  let code := "function f(a) \x7b\n\x7d"
  [.call 0 .openDocument oneFunction, .call 1 .analyzeSelection oneFunction,
    .codeReply code simpleReply, .handOn code, .wait 500000, .ring ⟨500000, false, 1⟩]

/-- The function moves down, and another one with a surrogate in it comes below. -/
def brokenText : LooseText :=
  ⟨spelled "\n\nfunction f(a) \x7b\n\x7d\nfunction g() \x7b // " ++ .surrogate 0xD800 ::
    spelled "\n\x7d"⟩

def breaking : List SessionEvent :=
  [.call 2 .updateDocument (.obj [("uri", .str "u"), ("text", .loose brokenText)]), .wait 1000000,
    .ring ⟨1000000, false, 2⟩]

-- The alarm has rung, but the pass has failed: the marker is still where the function was.
example : ¬EachWritable brokenText ∧
    (process.last fresh (analysis ++ breaking)).annotator.isPending "u" = false ∧
    (process.last fresh (analysis ++ breaking)).board.markersOf "u" = [⟨0, .simple⟩] := by
  decide +kernel

end Session

end CodeComplexity
