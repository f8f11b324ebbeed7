import CodeComplexity.Proofs.Session.Provenance

/-!
# Sessions and the replies that they get

A session together with its requests that are out, so that every reply answers a request that was
sent.  In such a dialogue every verdict that is told, shown or counted was returned before by the
classifier, for just the code that it is about, and none is read from the cache that is too old.
-/

namespace CodeComplexity

open Source Text

/-- A session, and the code of the requests that it has sent and that have had no reply. -/
structure Dialogue where
  session : Session
  unanswered : List String

abbrev DialogueMoment :=
  Moment Dialogue SessionEvent SessionAct

namespace Dialogue

variable {dialogue last : Dialogue} {moments past rest : List DialogueMoment}
  {moment : DialogueMoment}

def codesSent (acts : List SessionAct) : List String :=
  acts.filterMap fun act =>
    match act with
    | .classify code => some code
    | .probe _ | .finish _ _ => none

/-- Only a request that is out gets a reply. -/
def may (dialogue : Dialogue) : SessionEvent → Prop
  | .codeReply code _ => code ∈ dialogue.unanswered
  | _ => True

/-- The requests that are still out after an event. -/
def stillOut (unanswered : List String) : SessionEvent → List String
  | .codeReply code _ => unanswered.erase code
  | _ => unanswered

def step (dialogue : Dialogue) (event : SessionEvent) : Dialogue × List SessionAct :=
  let (session, acts) := dialogue.session.step event
  (⟨session, stillOut dialogue.unanswered event ++ codesSent acts⟩, acts)

/-- A dialogue as a process. -/
def process : Process Dialogue SessionEvent SessionAct :=
  ⟨may, step⟩

/-- What is to be seen of a moment in a dialogue. -/
def trace : Trace Caller DialogueMoment where
  wants moment := moment.state.session.Wants moment.event
  sends moment code := .classify code ∈ moment.acts
  returns moment code verdict replied :=
    (∃ reply, moment.event = .codeReply code reply ∧
      moment.state.session.service.verdictOf reply = .ok verdict) ∧
    moment.state.session.timeline.now = replied

/-- A pass over a document has drawn a marker. -/
def Drew (moments : List DialogueMoment) (uri : Uri) (marker : Marker) : Prop :=
  ∃ before pass after, moments = before ++ pass :: after ∧
    Session.Passes pass.state.session pass.event uri ∧ pass.state.session.Draws uri marker

/-- All that a session keeps and shows, and all its requests that are out, go back to what has
happened. -/
structure Traced (timeToLive : Int) (past : List DialogueMoment) (dialogue : Dialogue) : Prop where
  desk : dialogue.session.desk.Sourced timeToLive (trace.recordOf past)
  out : ∀ code ∈ dialogue.unanswered, ∃ sent ∈ past, .classify code ∈ sent.acts
  shown : ∀ uri, ∀ marker ∈ dialogue.session.board.markersOf uri, Drew past uri marker

theorem mem_codesSent {acts : List SessionAct} {code : String} :
    code ∈ codesSent acts ↔ .classify code ∈ acts := by
  rw [codesSent, List.mem_filterMap]
  constructor
  · rintro ⟨act, listed, sends⟩
    cases act with
    | classify other =>
        obtain rfl := Option.some.inj sends
        exact listed
    | probe call => cases sends
    | finish call outcome => cases sends
  · exact fun listed => ⟨_, listed, rfl⟩

theorem mem_of_mem_stillOut {codes : List String} {event : SessionEvent} {code : String}
    (listed : code ∈ stillOut codes event) : code ∈ codes := by
  cases event with
  | codeReply other reply => exact List.mem_of_mem_erase listed
  | _ => exact listed

theorem Drew.append {uri : Uri} {marker : Marker} (drew : Drew past uri marker)
    (rest : List DialogueMoment) : Drew (past ++ rest) uri marker := by
  obtain ⟨before, pass, after, rfl, drawn⟩ := drew
  exact ⟨before, pass, after ++ rest, by simp, drawn⟩

theorem Traced.step {timeToLive : Int} (traced : Traced timeToLive past dialogue)
    (event : SessionEvent) (allowed : dialogue.may event) :
    Traced timeToLive (past ++ [process.moment dialogue event])
        (process.moment dialogue event).after ∧
      ∀ act ∈ (process.moment dialogue event).acts, act.Sourced dialogue.session.showMetrics
        (trace.recordAt past (process.moment dialogue event)) := by
  generalize same : process.moment dialogue event = moment
  have state : moment.state = dialogue := by rw [← same]; rfl
  have happens : moment.event = event := by rw [← same]; rfl
  have asked (waiter : Waiter Caller) (text : LooseText)
      (wants : dialogue.session.Wants event waiter text) :
      trace.Wanted (past ++ [moment]) waiter text := by
    have seen : trace.wants moment waiter text := by
      change moment.state.session.Wants moment.event waiter text
      rw [state, happens]
      exact wants
    exact Trace.wanted_of_wants seen past
  obtain ⟨desk, acts⟩ := Session.sourced_step
    (traced.desk.mono (trace.recordAt_extends past moment)) (trace.recordOf_extends past moment)
    asked (by
      rintro code reply verdict rfl said
      have returns : trace.returns moment code verdict dialogue.session.timeline.now := by
        refine ⟨⟨reply, happens, ?_⟩, ?_⟩
        · rw [state]
          exact said
        · rw [state]
      exact Trace.returned_of_returns (traced.out code allowed) returns)
  subst same
  refine ⟨⟨desk, ?_, ?_⟩, acts⟩
  · intro code out
    rcases List.mem_append.mp out with old | new
    · obtain ⟨sent, listed, sends⟩ := traced.out code (mem_of_mem_stillOut old)
      exact ⟨sent, List.mem_append_left _ listed, sends⟩
    · exact ⟨_, List.mem_append_right _ (List.mem_singleton_self _), mem_codesSent.mp new⟩
  · intro uri marker shown
    rcases Session.shown_before_or_drawn shown with before | ⟨passes, draws⟩
    · exact (traced.shown uri marker before).append _
    · exact ⟨past, _, [], rfl, passes, draws⟩

theorem traced_of_course {settings : Settings} {first : Session} {acts : List SessionAct}
    (started : Session.start? settings = some (first, acts))
    (course : Course process ⟨first, []⟩ moments last) :
    Traced first.desk.cache.timeToLive moments last := by
  induction course with
  | start =>
      obtain ⟨hoverDelay, timeToLive, rfl⟩ := Session.start?_eq_some started
      constructor
      · exact Desk.sourced_start hoverDelay timeToLive _ _
      · exact fun code out => absurd out List.not_mem_nil
      · exact fun uri marker shown => absurd shown List.not_mem_nil
  | next event course allowed ih => exact (ih.step event allowed).1

/-! ## The law -/

/-- What happens at a moment goes back to what has happened before. -/
structure Accounted (timeToLive : Int) (past : List DialogueMoment) (moment : DialogueMoment) :
    Prop where
  /-- The verdict that an analysis ends with was returned for what was selected. -/
  analyzed : ∀ call uri notification verdict,
    .finish call (.ok (.analyzed uri notification verdict)) ∈ moment.acts →
    notification = verdict.notification moment.state.session.showMetrics ∧
      ∃ code : String, trace.Wanted (past ++ [moment]) ⟨⟨call, uri⟩, .verdict⟩ code ∧
        (trace.Unmistaken past code → ∃ replied, trace.Returned past code verdict replied)
  /-- The popup that a hover ends with is that of a verdict which was returned for its function. -/
  hovered : ∀ call uri span popup,
    .finish call (.ok (.hovered uri (some (span, popup)))) ∈ moment.acts →
    trace.Wanted (past ++ [moment]) ⟨⟨call, uri⟩, .hover span⟩ span.text ∧
      ∃ code : String, span.text = code ∧
        (trace.Unmistaken past code → ∃ verdict replied,
          trace.Returned past code verdict replied ∧
            popup = verdict.popup moment.state.session.showMetrics)
  /-- A verdict that may be read was returned for the code, not too long ago. -/
  read : ∀ code verdict,
    (moment.state.session.desk.cache.get moment.state.session.timeline.now code).1 =
      some verdict →
    trace.Unmistaken past code → ∃ replied, trace.Returned past code verdict replied ∧
      moment.state.session.timeline.now - replied ≤ timeToLive
  /-- A tally counts the verdicts that may be read. -/
  counted : ∀ call uri tally, .finish call (.ok (.report uri tally)) ∈ moment.acts →
    ∃ document, Keyed.get? moment.state.session.documents uri = some document ∧
      tally = Tally.ofVerdicts ((locateAll document.text).map fun span =>
        moment.state.session.desk.cache.read? moment.state.session.timeline.now span.text)
  /-- A marker was drawn by a pass for a verdict that could be read then. -/
  shown : ∀ uri, ∀ marker ∈ moment.after.session.board.markersOf uri,
    ∃ before pass after document, past ++ [moment] = before ++ pass :: after ∧
      Session.Passes pass.state.session pass.event uri ∧
      Keyed.get? pass.state.session.documents uri = some document ∧
      ∃ span ∈ locateAll document.text, ∃ code : String, span.text = code ∧
        ∃ verdict, marker = Marker.ofVerdict span verdict ∧
        (trace.Unmistaken before code → ∃ replied,
          trace.Returned before code verdict replied ∧
            pass.state.session.timeline.now - replied ≤ timeToLive)
  /-- A list of markers holds those that are shown. -/
  listed : ∀ call uri enabled markers,
    .finish call (.ok (.markers uri enabled markers)) ∈ moment.acts →
    markers = moment.state.session.board.markersOf uri
  failed : ∀ code reply fault, moment.event = .codeReply code reply →
    moment.state.session.service.verdictOf reply = .error fault →
    moment.after.session.desk.cache = moment.state.session.desk.cache
  handedOn : ∀ code, moment.event = .handOn code →
    moment.after.session.desk.cache = moment.state.session.desk.cache

/-- What a call wants a verdict for decides what it is about. -/
theorem eq_of_wants {session : Session} {event : SessionEvent} {waiter : Waiter Caller}
    {text : LooseText} (wants : session.Wants event waiter text) :
    waiter.purpose = .verdict ∨ ∃ span : FunctionSpan, waiter.purpose = .hover span ∧
      span.text = text := by
  cases wants with
  | hover number accepted isOpen found => exact .inr ⟨_, rfl, rfl⟩
  | selection number accepted isOpen selects => exact .inl rfl

/-- At every moment of a dialogue, what is told, read, counted and shown goes back to replies that
came before. -/
theorem accounted_of_course {settings : Settings} {first : Session} {acts : List SessionAct}
    (started : Session.start? settings = some (first, acts))
    (course : Course process ⟨first, []⟩ (past ++ moment :: rest) last) :
    Accounted first.desk.cache.timeToLive past moment := by
  obtain ⟨before, allowed, equal, -⟩ := course.split
  have traced := traced_of_course started before
  obtain ⟨after, sourced⟩ := traced.step moment.event allowed
  have tells := moment.state.session.tells_of_step moment.event
  have acted : moment.acts = (moment.state.session.step moment.event).2 := by rw [equal]; rfl
  rw [← acted] at tells
  rw [← equal] at after sourced
  constructor
  · intro call uri notification verdict told
    obtain ⟨purpose, code, wanted, ⟨sent, replied, returned, about⟩, made, notified⟩ :=
      sourced _ told
    refine ⟨notified, code, ?_, ?_⟩
    · cases purpose with
      | verdict => exact wanted
      | function span => cases made
      | hover span => cases made
    · exact fun unmistaken => ⟨replied, Trace.Returned.exactly returned about unmistaken⟩
  · intro call uri span popup told
    obtain ⟨purpose, code, verdict, wanted, ⟨sent, replied, returned, about⟩, made, shown⟩ :=
      sourced _ told
    obtain ⟨asked, there, wants⟩ := wanted
    rcases eq_of_wants wants with other | ⟨located, same, text⟩
    · obtain rfl : purpose = .verdict := other
      cases made
    · obtain rfl : purpose = .hover located := same
      cases made
      rw [text]
      exact ⟨⟨asked, there, wants⟩, code, rfl, fun unmistaken =>
        ⟨verdict, replied, Trace.Returned.exactly returned about unmistaken, shown⟩⟩
  · exact fun code verdict read unmistaken => Trace.returned_of_read traced.desk read unmistaken
  · exact fun call uri tally told => tells _ told
  · intro uri marker shown
    obtain ⟨front, pass, back, split, passes, document, isOpen, drawn⟩ :=
      after.shown uri marker shown
    obtain ⟨span, located, made⟩ := List.mem_filterMap.mp drawn
    obtain ⟨verdict, read, rfl⟩ := Option.map_eq_some_iff.mp made
    obtain ⟨code, text, read⟩ := Cache.read?_eq_some_iff.mp read
    refine ⟨front, pass, back, document, split, passes, isOpen, span, located, code, text, verdict,
      rfl, ?_⟩
    have whole := before.append (Course.of_moment allowed equal)
    rw [split] at whole
    exact fun unmistaken =>
      Trace.returned_of_read (traced_of_course started whole.split.1).desk read unmistaken
  · exact fun call uri enabled markers told => tells _ told
  · intro code reply fault received failed
    rw [equal, received]
    change Desk.stored _ _ _ (moment.state.session.service.verdictOf reply) = _
    rw [failed]
    rfl
  · intro code handed
    rw [equal, handed]
    change (moment.state.session.atDesk (moment.state.session.desk.handOn code)).1.desk.cache = _
    rw [Session.desk_atDesk, Desk.cache_handOn]
    rfl

end Dialogue

/-- Whatever verdict is given to a caller, told by a session, shown by a marker or counted in a
tally was returned before by the classifier for a request with just the code that it is about,
unless code with the same digest was sent, too.  A verdict that is read from the cache was returned
no longer ago than entries live, and requests that fail change nothing in the cache.  That holds for
every desk into whose cache nothing is put from outside, and for every session. -/
theorem verdicts_come_from_replies (κ : Type) {settings : Settings} {first : Session}
    {acts : List SessionAct} (started : Session.start? settings = some (first, acts)) :
    (∀ hoverDelay timeToLive capacity past moment rest, ∀ last : Office κ,
      Course Office.process (.start hoverDelay (.empty timeToLive capacity))
        (past ++ moment :: rest) last →
      (∀ other ∈ past ++ moment :: rest, ∀ code verdict,
        other.event ≠ .desk (.put code verdict)) →
      Office.Accounted timeToLive past moment) ∧
    ∀ past moment rest last,
      Course Dialogue.process ⟨first, []⟩ (past ++ moment :: rest) last →
      Dialogue.Accounted first.desk.cache.timeToLive past moment :=
  ⟨fun _ _ _ _ _ _ _ course unput => Office.accounted_of_course course unput,
    fun _ _ _ _ course => Dialogue.accounted_of_course started course⟩

/-- A document is opened and analysed, and its functions are counted. -/
def countedAnalysis : List SessionEvent :=
  let code := "function f(a) \x7b\n\x7d"
  [.call 0 .openDocument Session.oneFunction, .call 1 .analyzeSelection Session.oneFunction,
    .codeReply code Session.simpleReply, .handOn code, .wait 500000,
    .call 2 .complexityReport Session.oneFunction]

/-- Code is analysed, and its verdict comes and is handed on. -/
def handedVerdict : List (OfficeEvent Nat) :=
  [.desk (.analyzeCode 1 "f"), .desk (.receive "f" (.ok Office.plainVerdict)), .desk (.handOn "f")]

/-- The law at work: what may be read when the verdict is handed on, and when the functions are
counted, was returned for the code. -/
theorem verdicts_come_from_replies_counted :
    let office := Office.process.last Office.smallOffice (handedVerdict.take 2)
    let atOffice := Office.process.moments Office.smallOffice (handedVerdict.take 2)
    let dialogue := Dialogue.process.last ⟨Session.fresh, []⟩ (countedAnalysis.take 5)
    let inDialogue := Dialogue.process.moments ⟨Session.fresh, []⟩ (countedAnalysis.take 5)
    let now := dialogue.session.timeline.now
    let code := "function f(a) \x7b\n\x7d"
    (∃ verdict replied, (office.desk.cache.get office.timeline.now "f").1 = some verdict ∧
      Office.trace.Returned atOffice "f" verdict replied) ∧
    ∃ verdict replied, (dialogue.session.desk.cache.get now code).1 = some verdict ∧
      Dialogue.trace.Returned inDialogue code verdict replied ∧ now - replied ≤ 300000000 := by
  intro office atOffice dialogue inDialogue now code
  obtain ⟨offices, dialogues⟩ := verdicts_come_from_replies Nat
    (show Session.start? Session.fresh.settings = some (Session.fresh, [.probe none]) from rfl)
  constructor
  · have course : Course Office.process Office.smallOffice
        (Office.process.moments Office.smallOffice handedVerdict)
        (Office.process.last Office.smallOffice handedVerdict) :=
      Process.course_of_allows ⟨trivial, List.mem_singleton_self _, trivial, trivial⟩
    have unput : ∀ moment ∈ Office.process.moments Office.smallOffice handedVerdict,
        ∀ other stored, moment.event ≠ .desk (.put other stored) := by
      intro moment listed other stored put
      have happened := Process.event_mem_of_mem_moments listed
      simp [handedVerdict, put] at happened
    have split : Office.process.moments Office.smallOffice handedVerdict =
        atOffice ++ [Office.process.moment office (.desk (.handOn "f"))] := rfl
    rw [split] at course unput
    have accounted := offices _ _ _ _ _ [] _ course unput
    have ⟨readable, only⟩ : (office.desk.cache.get office.timeline.now "f").1.isSome ∧
        ∀ moment ∈ atOffice, ∀ sent ∈ codesAsked moment.acts, sent = "f" := by
      decide +kernel
    obtain ⟨verdict, read⟩ := Option.isSome_iff_exists.mp readable
    obtain ⟨replied, returned, -⟩ := accounted.read "f" verdict read
      fun moment listed sent asks _ => only moment listed sent asks
    exact ⟨verdict, replied, read, returned⟩
  · have course : Course Dialogue.process ⟨Session.fresh, []⟩
        (Dialogue.process.moments ⟨Session.fresh, []⟩ countedAnalysis)
        (Dialogue.process.last ⟨Session.fresh, []⟩ countedAnalysis) := by
      refine Process.course_of_allows ⟨trivial, trivial, ?_, trivial, trivial, trivial, trivial⟩
      change code ∈ Dialogue.unanswered _
      decide +kernel
    have accounted := dialogues inDialogue (Dialogue.process.moment dialogue
      (.call 2 .complexityReport Session.oneFunction)) [] _ course
    have ⟨readable, only⟩ : (dialogue.session.desk.cache.get now code).1.isSome ∧
        ∀ moment ∈ inDialogue, ∀ sent ∈ Dialogue.codesSent moment.acts, sent = code := by
      decide +kernel
    obtain ⟨verdict, read⟩ := Option.isSome_iff_exists.mp readable
    obtain ⟨replied, returned, recent⟩ := accounted.read code verdict read
      fun moment listed sent sends _ => only moment listed sent (Dialogue.mem_codesSent.mpr sends)
    exact ⟨verdict, replied, read, returned, recent⟩

end CodeComplexity
