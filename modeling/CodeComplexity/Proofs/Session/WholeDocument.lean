import CodeComplexity.Proofs.Session.Consistency
import CodeComplexity.Proofs.Session.Endings
import CodeComplexity.Proofs.Session.Selections
import CodeComplexity.Proofs.Source.Ranges

/-!
# Whole documents and their markers

A document that one function fills may be analysed as a whole, and then its markers are drawn anew.
But the analysis is about the text as it was given, while a pass looks up the function, whose text
is the normal form of the document's.  The two are the same unless a carriage return ends a line:
then the verdict on the whole document is stored where no pass looks for it.
-/

namespace CodeComplexity

open Source Text

namespace Session

variable {session first last : Session} {past rest moments : List SessionMoment}
  {moment : SessionMoment} {event : SessionEvent} {uri : Uri} {verdict : Verdict}
  {notification : Notification} {timeToLive : Int} {number : Nat}

/-! ## Verdicts go back to replies -/

def recordOf (past : List SessionMoment) : Record Caller :=
  ⟨Wanted past, fun code verdict _ => Replied past (contentDigest code) (.ok verdict)⟩

/-- What an event tells goes back to what was replied before it, and what the desk keeps then to
what was replied by then. -/
theorem sourced_moment (sourced : session.desk.Sourced timeToLive (recordOf past))
    (event : SessionEvent) :
    (session.step event).1.desk.Sourced timeToLive
        (recordOf (past ++ [process.moment session event])) ∧
      ∀ act ∈ (session.step event).2, act.Sourced session.showMetrics
        ⟨Wanted (past ++ [process.moment session event]), (recordOf past).returned⟩ := by
  have before : session.desk.Sourced timeToLive
      ⟨Wanted (past ++ [process.moment session event]), (recordOf past).returned⟩ :=
    sourced.mono ⟨fun _ _ wanted => wanted.append _, fun _ _ _ replied => replied⟩
  have here : process.moment session event ∈ past ++ [process.moment session event] := by simp
  have onward : (recordOf (past ++ [process.moment session event])).Extends
      ⟨Wanted (past ++ [process.moment session event]), (recordOf past).returned⟩ :=
    ⟨fun _ _ wanted => wanted, fun _ _ _ replied => replied.append _⟩
  refine sourced_step before onward ?_ ?_
  · exact fun waiter code wants => ⟨_, here, wants⟩
  · exact fun code reply verdict happens told => ⟨_, here, code, reply, happens, rfl, told⟩

theorem sourced_of_course {settings : Settings} {acts : List SessionAct}
    (started : start? settings = some (first, acts)) (course : Course process first moments last) :
    last.desk.Sourced first.desk.cache.timeToLive (recordOf moments) := by
  induction course with
  | start =>
      obtain ⟨hoverDelay, timeToLive, rfl⟩ := start?_eq_some started
      exact Desk.sourced_start _ _ _ _
  | next event _ _ ih => exact (sourced_moment ih event).1

/-! ## A verdict on a selection sets the alarm -/

/-- The alarm of a document is set for when it would be due if the document changed now. -/
def AlarmSet (session : Session) (uri : Uri) : Prop :=
  ∃ alarm, session.annotator.alarm? uri = some alarm ∧
    alarm.due = session.timeline.now + session.annotator.delay

theorem alarmSet_noteChange (enabled : session.annotator.enabled = true)
    (active : session.annotator.active = some uri) : (session.noteChange uri).AlarmSet uri := by
  refine ⟨session.annotator.alarmNow session.timeline, ?_, ?_⟩
  · change (session.annotator.change session.timeline uri).alarm? uri = _
    rw [Annotator.change, if_pos (by simp [enabled, active]), Annotator.alarm?_arm, if_pos rfl]
  · change _ = session.timeline.now + (session.annotator.change session.timeline uri).delay
    rw [Annotator.change]
    split
    · rfl
    · rfl

theorem AlarmSet.noteChange (set : session.AlarmSet uri) (other : Uri) :
    (session.noteChange other).AlarmSet uri := by
  by_cases inView : session.annotator.enabled = true ∧ session.annotator.active = some other
  · by_cases same : uri = other
    · rw [same]
      exact alarmSet_noteChange inView.1 inView.2
    · obtain ⟨alarm, there, due⟩ := set
      have changed : (session.noteChange other).annotator =
          session.annotator.arm session.timeline other :=
        if_pos (by simp [inView])
      refine ⟨alarm, ?_, ?_⟩
      · rw [changed, Annotator.alarm?_arm, if_neg same]
        exact there
      · rw [changed]
        exact due
  · have unchanged : (session.noteChange other).annotator = session.annotator :=
      if_neg (by simpa using inView)
    rw [AlarmSet, unchanged]
    exact set

theorem AlarmSet.finish (set : session.AlarmSet uri) (caller : Caller)
    (finding : Except Fault Finding) : (session.finish caller finding).1.AlarmSet uri := by
  match finding with
  | .error fault => exact set
  | .ok (.function found) => exact set
  | .ok (.verdict verdict) => exact set.noteChange caller.uri

theorem AlarmSet.carryOut (set : session.AlarmSet uri) (acts : List (DeskAct Caller)) :
    (session.carryOut acts).1.AlarmSet uri := by
  induction acts generalizing session with
  | nil => exact set
  | cons act rest ih =>
      cases act with
      | ask code => exact ih set
      | give caller finding => exact ih (set.finish caller finding)

/-- Who is given a verdict on a selection of the document in view sets the alarm of the document. -/
theorem alarmSet_carryOut (session : Session) {caller : Caller} {acts : List (DeskAct Caller)}
    (given : .give caller (.ok (.verdict verdict)) ∈ acts)
    (enabled : session.annotator.enabled = true)
    (active : session.annotator.active = some caller.uri) :
    (session.carryOut acts).1.AlarmSet caller.uri := by
  induction acts generalizing session with
  | nil => exact absurd given List.not_mem_nil
  | cons act rest ih =>
      rcases List.mem_cons.mp given with rfl | later
      · exact AlarmSet.carryOut (alarmSet_noteChange enabled active) rest
      · cases act with
        | ask code => exact ih session later enabled active
        | give other found =>
            have kept := (session.rearms_finish other found).kept
            have stillEnabled : (session.finish other found).1.annotator.enabled = true := by
              rw [kept]
              exact enabled
            have stillActive :
                (session.finish other found).1.annotator.active = some caller.uri := by
              rw [kept]
              exact active
            exact ih _ later stillEnabled stillActive

/-- A call ends with a verdict on a selection only if the desk gives it. -/
theorem give_of_analyzed {acts : List (DeskAct Caller)}
    (ends : .finish number (.ok (.analyzed uri notification verdict)) ∈ (session.carryOut acts).2) :
    .give ⟨number, uri⟩ (.ok (.verdict verdict)) ∈ acts := by
  rcases mem_carryOut ends with ⟨code, sends⟩ | ⟨caller, finding, given, told⟩
  · cases sends
  · rw [finish_act] at told
    obtain ⟨rfl, result⟩ := SessionAct.finish.inj told
    match finding with
    | .error fault => cases result
    | .ok (.function found) => cases result
    | .ok (.verdict verdict) =>
        cases result
        exact given

/-- When a call ends with a verdict on a selection of the document in view, the alarm of the
document is set. -/
theorem alarmSet_of_analyzed
    (ends : .finish number (.ok (.analyzed uri notification verdict)) ∈ (session.step event).2)
    (enabled : session.annotator.enabled = true) (active : session.annotator.active = some uri) :
    (session.step event).1.AlarmSet uri := by
  have atDesk {base : Session} {change : Desk Caller × List (DeskAct Caller)}
      (same : base.annotator = session.annotator)
      (told : .finish number (.ok (.analyzed uri notification verdict)) ∈ (base.atDesk change).2) :
      (base.atDesk change).1.AlarmSet uri := by
    rw [← same] at enabled active
    exact alarmSet_carryOut { base with desk := change.1 } (give_of_analyzed told) enabled active
  generalize result : session.step event = change at ends
  have outcome := session.outcome event
  rw [result] at outcome
  cases outcome with
  | hovered => exact atDesk rfl ends
  | selected => exact atDesk rfl ends
  | withdrawn => exact atDesk rfl ends
  | woken => exact atDesk rfl ends
  | handedOn => exact atDesk rfl ends
  | refused => cases List.mem_singleton.mp ends
  | opened => cases List.mem_singleton.mp ends
  | updated => cases List.mem_singleton.mp ends
  | closed => cases List.mem_singleton.mp ends
  | toggled => cases List.mem_singleton.mp ends
  | listed => cases List.mem_singleton.mp ends
  | reported => cases List.mem_singleton.mp ends
  | unreported => cases List.mem_singleton.mp ends
  | asked => cases List.mem_singleton.mp ends
  | probeDropped => cases List.mem_singleton.mp ends
  | drawn => cases ends
  | received => cases ends
  | heard => cases List.mem_singleton.mp ends
  | ignored => cases ends
  | waited => cases ends
  | elsewhere => cases ends

/-! ## What a pass leaves -/

theorem redrawn_of_passes {document : Document} (consistent : session.Consistent)
    (passes : Passes session event uri)
    (isOpen : Keyed.get? session.documents uri = some document) :
    Redrawn session.timeline.now document.text session.desk.cache (session.board.markersOf uri)
      ((session.step event).1.board.markersOf uri) := by
  cases passes with
  | @alarm alarm _ other due =>
      have enabled : session.annotator.enabled = true := by
        rw [← Bool.not_eq_false]
        intro off
        have unset := (consistent.disabled off).1 uri
        rw [Annotator.isPending_of_documentOf? due] at unset
        cases unset
      change Redrawn _ _ _ _ ((session.ring alarm).1.board.markersOf uri)
      rw [ring, other]
      change Redrawn _ _ _ _ ((session.paint (session.canvas.ring _ _ alarm)).board.markersOf uri)
      rw [Canvas.ring_of_some due]
      exact redrawn_paint_pass enabled isOpen
  | enabling off active =>
      change Redrawn _ _ _ _ ((session.paint (session.canvas.setEnabled _ _
        (!session.annotator.enabled))).board.markersOf uri)
      rw [off, Bool.not_false, Canvas.setEnabled_true_of_some off active]
      exact redrawn_paint_pass rfl isOpen

end Session

/-! ## The call -/

/-- A call that analyses a whole document, which one function fills, within a course.  No other call
has its number. -/
structure DocumentCall (moments : List SessionMoment) where
  before : List SessionMoment
  called : SessionMoment
  after : List SessionMoment
  number : Nat
  arguments : Json
  input : SelectionInput
  document : Document
  span : FunctionSpan
  whole : moments = before ++ called :: after
  calls : called.event = .call number .analyzeSelection arguments
  accepted : SelectionInput.ofMembers arguments = .valid input
  unbounded : input.bounds.startLine = none
  isOpen : Keyed.get? called.state.documents input.document.uri = some document
  fills : Fills span document.text
  only : ∀ moment ∈ before ++ after, ∀ tool arguments, moment.event ≠ .call number tool arguments

namespace DocumentCall

open Session

variable {moments past rest : List SessionMoment} {moment : SessionMoment} {other : Uri}
  {verdict : Verdict} {notification : Notification} {timeToLive : Int}

def uri (call : DocumentCall moments) : Uri :=
  call.input.document.uri

def text (call : DocumentCall moments) : LooseText :=
  call.document.text

/-- A moment at which the call ends with a verdict. -/
def Ends (call : DocumentCall moments) (moment : SessionMoment) (verdict : Verdict) : Prop :=
  ∃ uri notification, .finish call.number (.ok (.analyzed uri notification verdict)) ∈ moment.acts

/-- What becomes of the analysis of a whole document. -/
structure Feeds (call : DocumentCall moments) : Prop where
  /-- The verdict is sought for the text as it was given, -/
  seeks : call.called.state.step call.called.event =
    call.called.state.atDesk (call.called.state.desk.seekText call.called.state.timeline.now
      ⟨⟨call.number, call.uri⟩, .verdict⟩ call.text)
  /-- and was replied for that text, which can be written then. -/
  replied : ∀ past told rest verdict, moments = past ++ told :: rest → call.Ends told verdict →
    ∃ code : String, call.text = code ∧ Replied past (contentDigest code) (.ok verdict)
  /-- It sets the alarm of the document if that is in view. -/
  alarmed : ∀ told ∈ moments, ∀ verdict, call.Ends told verdict →
    told.state.annotator.enabled = true → told.state.annotator.active = some call.uri →
    told.after.AlarmSet call.uri
  /-- A pass over the same text draws a marker on its first line just if it can read a verdict on
  the normal form of the text, -/
  drawn : ∀ pass ∈ moments, Passes pass.state pass.event call.uri → ∀ document,
    Keyed.get? pass.state.documents call.uri = some document → document.text = call.text →
    ¬call.text.HasSurrogate →
    ((∃ marker ∈ pass.after.board.markersOf call.uri, marker.line = 0) ↔
      pass.state.desk.cache.read? pass.state.timeline.now (normalForm call.text) ≠ none)
  /-- which is the text itself unless a carriage return ends one of its lines. -/
  normal : normalForm call.text = call.text ↔
    ¬ [.char '\r', .char '\n'] <:+: call.text.points ∧ ¬ [.char '\r'] <:+ call.text.points

theorem eq_called (call : DocumentCall moments) (listed : moment ∈ moments) {tool : Tool}
    {arguments : Json} (calls : moment.event = .call call.number tool arguments) :
    moment = call.called ∧ tool = .analyzeSelection ∧ arguments = call.arguments := by
  rw [call.whole] at listed
  exact eq_of_calls call.calls call.only listed calls

/-- What is wanted under the number of the call is the verdict on the text as it was given. -/
theorem eq_of_wanted (call : DocumentCall moments) {within : List SessionMoment}
    (subset : within ⊆ moments) {waiter : Waiter Caller} {text : LooseText}
    (wanted : Wanted within waiter text) (own : waiter.caller.call = call.number) :
    waiter.caller.uri = call.uri ∧ text = call.text := by
  obtain ⟨moment, listed, wants⟩ := wanted
  generalize happens : moment.event = event at wants
  cases wants with
  | hover number accepted isOpen found =>
      obtain rfl : number = call.number := own
      obtain ⟨-, other, -⟩ := call.eq_called (subset listed) happens
      cases other
  | selection number accepted isOpen selects =>
      obtain rfl : number = call.number := own
      obtain ⟨rfl, -, rfl⟩ := call.eq_called (subset listed) happens
      rw [call.accepted] at accepted
      obtain rfl := Except.ok.inj accepted
      obtain rfl := Option.some.inj (isOpen.symm.trans call.isOpen)
      rw [Bounds.range, call.unbounded] at selects
      obtain rfl := Except.ok.inj selects
      exact ⟨rfl, rfl⟩

/-- A verdict that the call ends with was replied for the text as it was given. -/
theorem replied_of_ends (call : DocumentCall moments) (split : moments = past ++ moment :: rest)
    (happened : moment = process.moment moment.state moment.event)
    (sourced : moment.state.desk.Sourced timeToLive (recordOf past))
    (ends : .finish call.number (.ok (.analyzed other notification verdict)) ∈ moment.acts) :
    other = call.uri ∧
      ∃ code : String, call.text = code ∧ Replied past (contentDigest code) (.ok verdict) := by
  have acts := (sourced_moment sourced moment.event).2
  rw [← happened, ← acts_eq happened] at acts
  obtain ⟨purpose, code, wanted, ⟨sent, _, replied, about⟩, -, -⟩ := acts _ ends
  have upTo : past ++ [moment] ⊆ moments := by rw [split]; simp
  obtain ⟨document, text⟩ := call.eq_of_wanted upTo wanted rfl
  refine ⟨document, code, text.symm, ?_⟩
  rw [← about]
  exact replied

theorem step_called (call : DocumentCall moments) :
    call.called.state.step call.called.event =
      call.called.state.atDesk (call.called.state.desk.seekText call.called.state.timeline.now
        ⟨⟨call.number, call.uri⟩, .verdict⟩ call.text) := by
  rw [call.calls, step_of_accepted call.accepted call.isOpen, Bounds.range, call.unbounded]
  dsimp only
  rw [Desk.analyzeSelection, extractText, call.fills.not_allBlank]
  rfl

/-- A pass finds the function that fills the text by its normal form. -/
theorem exists_freshMarker_iff (call : DocumentCall moments) (now : Int) (cache : Cache) :
    (∃ marker ∈ freshMarkers now call.text cache, marker.line = 0) ↔
      cache.read? now (normalForm call.text) ≠ none := by
  have fills := call.fills
  have here (marker : Marker) (atTop : marker.line = 0) : marker.line = call.span.startLine :=
    atTop.trans fills.first.symm
  rw [text, ← fills.text_eq, Option.ne_none_iff_exists']
  constructor
  · rintro ⟨marker, drawn, atTop⟩
    obtain ⟨verdict, read, -⟩ := (mem_freshMarkers_iff fills.listed (here marker atTop)).mp drawn
    exact ⟨verdict, read⟩
  · rintro ⟨verdict, read⟩
    refine ⟨.ofVerdict call.span verdict, ?_, fills.first⟩
    exact (mem_freshMarkers_iff fills.listed rfl).mpr ⟨verdict, read, rfl⟩

end DocumentCall

/-- The call with a number ends with a verdict on a selection of a document. -/
def SessionAct.analyzes (number : Nat) (uri : Uri) : SessionAct → Bool
  | .finish other (.ok (.analyzed about _ _)) => other == number && about == uri
  | _ => false

theorem SessionAct.eq_of_analyzes {number : Nat} {uri : Uri} {act : SessionAct}
    (ends : act.analyzes number uri = true) :
    ∃ notification verdict, act = .finish number (.ok (.analyzed uri notification verdict)) := by
  unfold analyzes at ends
  split at ends
  · next notification verdict =>
    obtain ⟨rfl, rfl⟩ := by simpa using ends
    exact ⟨notification, verdict, rfl⟩
  · cases ends

namespace Session

/-- The analysis of a whole document is about the text as it was given, and its verdict sets the
alarm of the document in view.  The pass looks for the normal form of the text: it draws a marker if
no carriage return ends a line, and otherwise only if the normal form itself has been judged. -/
theorem whole_documents_feed_normal_forms {settings : Settings} {first last : Session}
    {acts : List SessionAct} (started : start? settings = some (first, acts))
    {moments : List SessionMoment} (course : Course process first moments last)
    (call : DocumentCall moments) : call.Feeds := by
  constructor
  · exact call.step_called
  · rintro past told rest verdict split ⟨uri, notification, ends⟩
    rw [split] at course
    obtain ⟨before, -, happened, -⟩ := course.split
    exact (call.replied_of_ends split happened (sourced_of_course started before) ends).2
  · rintro told listed verdict ⟨uri, notification, ends⟩ enabled active
    obtain ⟨past, rest, split⟩ := List.append_of_mem listed
    rw [split] at course
    obtain ⟨before, -, happened, -⟩ := course.split
    obtain ⟨rfl, -⟩ :=
      call.replied_of_ends split happened (sourced_of_course started before) ends
    rw [acts_eq happened] at ends
    rw [after_eq happened]
    exact alarmSet_of_analyzed ends enabled active
  · rintro pass listed passes document isOpen same without
    obtain ⟨past, rest, rfl⟩ := List.append_of_mem listed
    obtain ⟨before, -, happened, -⟩ := course.split
    have consistent := (consistent_of_course started before).2
    have each := eachWritable_of_not_hasSurrogate (same ▸ without)
    rw [after_eq happened, (redrawn_of_passes consistent passes isOpen).drawn each, same]
    exact call.exists_freshMarker_iff _ _
  · exact normalForm_eq_iff

/-- A text with a carriage return that one function fills. -/
def returnedText : String :=
  "function f(a) \x7b\r\n\x7d"

def returnedDocument : Json :=
  .obj [("uri", .str "u"), ("text", .str returnedText)]

/-- The law at work: the document was analysed and its alarm was set, but the pass draws nothing
although the verdict may still be read. -/
theorem whole_documents_feed_normal_forms_returned :
    ∃ past told between pass,
      Course process fresh (past ++ told :: (between ++ [pass])) pass.after ∧
      (∃ notification verdict, .finish 1 (.ok (.analyzed "u" notification verdict)) ∈ told.acts) ∧
      told.after.AlarmSet "u" ∧ Passes pass.state pass.event "u" ∧
      (pass.state.desk.cache.get pass.state.timeline.now returnedText).1 ≠ none ∧
      ∀ marker ∈ pass.after.board.markersOf "u", marker.line ≠ 0 := by
  let opened := process.moment fresh (.call 0 .openDocument returnedDocument)
  let called := process.moment opened.after (.call 1 .analyzeSelection returnedDocument)
  let replied := process.moment called.after (.codeReply returnedText simpleReply)
  let told := process.moment replied.after (.handOn returnedText)
  let waited := process.moment told.after (.wait 500000)
  let pass := process.moment waited.after (.ring ⟨500000, false, 1⟩)
  have course : Course process fresh ([opened] ++ called :: [replied, told, waited, pass])
      pass.after :=
    Process.course_of_allows (show process.Allows fresh [.call 0 .openDocument returnedDocument,
      .call 1 .analyzeSelection returnedDocument, .codeReply returnedText simpleReply,
      .handOn returnedText, .wait 500000, .ring ⟨500000, false, 1⟩] from
      ⟨trivial, trivial, trivial, trivial, trivial, trivial, trivial⟩)
  have only : ∀ moment ∈ [opened] ++ [replied, told, waited, pass], ∀ tool arguments,
      moment.event ≠ .call 1 tool arguments := by
    intro moment listed tool arguments calls
    have happens : moment.event ∈ [.call 0 .openDocument returnedDocument,
        .codeReply returnedText simpleReply, .handOn returnedText, .wait 500000,
        .ring ⟨500000, false, 1⟩] :=
      List.mem_map.mpr ⟨moment, listed, rfl⟩
    rw [calls] at happens
    simp at happens
  have ⟨atCall, analyzes, enabled, active, unowned, due, atPass, kept, unread⟩ :
      Keyed.get? called.state.documents "u" = some ⟨returnedText, 1⟩ ∧
      told.acts.any (SessionAct.analyzes 1 "u") = true ∧
      told.state.annotator.enabled = true ∧
      told.state.annotator.active = some "u" ∧
      pass.state.desk.owns ⟨500000, false, 1⟩ = false ∧
      pass.state.annotator.documentOf? ⟨500000, false, 1⟩ = some "u" ∧
      Keyed.get? pass.state.documents "u" = some ⟨returnedText, 1⟩ ∧
      (pass.state.desk.cache.get pass.state.timeline.now returnedText).1.isSome = true ∧
      (pass.state.desk.cache.read? pass.state.timeline.now (normalForm returnedText)).isNone =
        true := by
    decide +kernel
  let span : FunctionSpan := ⟨0, 1, "function f(a) \x7b\n\x7d", by decide⟩
  have fills : Fills span returnedText := ⟨by decide +kernel, rfl, by decide +kernel⟩
  let call : DocumentCall ([opened] ++ called :: [replied, told, waited, pass]) :=
    ⟨[opened], called, [replied, told, waited, pass], 1, returnedDocument,
      ⟨⟨"u", returnedText⟩, ⟨none, 0, none, none⟩⟩, ⟨returnedText, 1⟩, span, rfl, rfl, rfl, rfl,
      atCall, fills, only⟩
  have feeds := whole_documents_feed_normal_forms
    (show start? fresh.settings = some (fresh, [.probe none]) from rfl) course call
  obtain ⟨notification, verdict, ends⟩ : ∃ notification verdict,
      .finish 1 (.ok (.analyzed "u" notification verdict)) ∈ told.acts := by
    obtain ⟨act, listed, isEnd⟩ := List.any_eq_true.mp analyzes
    obtain ⟨notification, verdict, rfl⟩ := SessionAct.eq_of_analyzes isEnd
    exact ⟨notification, verdict, listed⟩
  have passes : Passes pass.state pass.event "u" := .alarm unowned due
  have set := feeds.alarmed told (by simp) verdict ⟨"u", notification, ends⟩ enabled active
  have drawn := feeds.drawn pass (by simp) passes ⟨returnedText, 1⟩ atPass rfl
    (LooseText.not_hasSurrogate_ofString _)
  refine ⟨[opened, called, replied], told, [waited], pass, course, ⟨notification, verdict, ends⟩,
    set, passes, Option.isSome_iff_ne_none.mp kept, ?_⟩
  intro marker there atTop
  exact drawn.mp ⟨marker, there, atTop⟩ (Option.isNone_iff_eq_none.mp unread)

end Session

end CodeComplexity
