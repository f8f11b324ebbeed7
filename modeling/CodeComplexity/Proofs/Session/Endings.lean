import CodeComplexity.Proofs.Analysis.Giving
import CodeComplexity.Proofs.Session.Provenance

/-!
# How calls end

Most of what happens to a session happens at its desk: `Session.Brings` says which event a session's
event brings there.  What else happens ends calls at once and leaves those alone who wait at the
desk.  So a call ends at once, or with what the desk gives to it.
-/

namespace CodeComplexity

open Source Text

variable {session base : Session} {event : SessionEvent} {atDesk : DeskEvent Caller} {number : Nat}
  {result : Except Fault ToolResult}

namespace Session

/-! ## Events at the desk -/

/-- What an event of a session brings to its desk. -/
inductive Brings (session : Session) : SessionEvent → DeskEvent Caller → Prop where
  | hover (number : Nat) {arguments : Json} {input : HoverInput} {document : Document}
      (accepted : InputKind.hover.accept (HoverInput.ofMembers arguments) = .ok input)
      (isOpen : Keyed.get? session.documents input.document.uri = some document) :
      Brings session (.call number .hover arguments)
        (.hover ⟨number, input.document.uri⟩ input.document.uri document.text input.position)
  | selection (number : Nat) {arguments : Json} {input : SelectionInput} {document : Document}
      {range : Option TextRange}
      (accepted : InputKind.selection.accept (SelectionInput.ofMembers arguments) = .ok input)
      (isOpen : Keyed.get? session.documents input.document.uri = some document)
      (selects : input.bounds.range.titled "TextRange" = .ok range) :
      Brings session (.call number .analyzeSelection arguments)
        (.analyzeSelection ⟨number, input.document.uri⟩ document.text range)
  | cancel (number : Nat) :
      Brings session (.cancel number) (.withdraw fun caller => caller.call = number)
  | ring {alarm : Alarm} (owned : session.desk.owns alarm = true) :
      Brings session (.ring alarm) (.ring alarm)
  | reply (code : String) (reply : Reply) :
      Brings session (.codeReply code reply) (.receive code (session.service.verdictOf reply))
  | handOn (code : String) : Brings session (.handOn code) (.handOn code)

/-- How a call ends that does not wait at the desk. -/
inductive EndsAside (session : Session) : SessionEvent → Nat → Except Fault ToolResult → Prop where
  | refused {number : Nat} {tool : Tool} {arguments : Json} {fault : Fault}
      (refusal : session.perform number arguments tool = .error fault) :
      EndsAside session (.call number tool arguments) number (.error fault)
  | done (number : Nat) {tool : Tool} (elsewhere : tool ≠ .hover) (arguments : Json)
      (result : ToolResult) : EndsAside session (.call number tool arguments) number (.ok result)
  /-- A report fails because a function cannot be looked up. -/
  | unreported (number : Nat) (arguments : Json) (fault : LookFault) :
      EndsAside session (.call number .complexityReport arguments) number (.error (.ofLook fault))
  | dropped {number : Nat} (waits : number ∈ session.probing) :
      EndsAside session (.cancel number) number (.error .cancelled)
  | heard {number : Nat} (waits : number ∈ session.probing) (reply : Reply) (result : ToolResult) :
      EndsAside session (.healthReply (some number) reply) number (.ok result)

/-- Something happens that does not concern those who wait at the desk. -/
structure Aside (session : Session) (event : SessionEvent)
    (change : Session × List SessionAct) : Prop where
  requests : change.1.desk.requests = session.desk.requests
  settling : change.1.desk.settling = session.desk.settling
  probing : ∀ number ∈ change.1.probing,
    number ∈ session.probing ∨ ∃ arguments, event = .call number .checkHealth arguments
  ends : ∀ number result, .finish number result ∈ change.2 → session.EndsAside event number result

/-- Something happens at the desk, and the session carries out what it does. -/
structure Carries (session : Session) (atDesk : DeskEvent Caller)
    (change : Session × List SessionAct) (base : Session) : Prop where
  desk : base.desk = session.desk
  settings : base.settings = session.settings
  probing : base.probing = session.probing
  change : change = base.atDesk (session.desk.step session.timeline atDesk)

theorem carries_self (session : Session) (atDesk : DeskEvent Caller) :
    session.Carries atDesk (session.atDesk (session.desk.step session.timeline atDesk)) session :=
  ⟨rfl, rfl, rfl, rfl⟩

theorem perform_hover {number : Nat} {arguments : Json} {input : HoverInput} {document : Document}
    (accepted : InputKind.hover.accept (HoverInput.ofMembers arguments) = .ok input)
    (isOpen : Keyed.get? session.documents input.document.uri = some document) :
    session.perform number arguments .hover =
      .ok (session.afterAlarm.atDesk (session.desk.hover session.timeline
        ⟨number, input.document.uri⟩ input.document.uri document.text input.position)) := by
  simp only [perform, hover, accepted, bind, Except.bind, require_eq_ok_iff.mpr isOpen]
  rfl

theorem carries_hover (session : Session) (number : Nat) {arguments : Json} {input : HoverInput}
    {document : Document}
    (accepted : InputKind.hover.accept (HoverInput.ofMembers arguments) = .ok input)
    (isOpen : Keyed.get? session.documents input.document.uri = some document) :
    session.Carries
      (.hover ⟨number, input.document.uri⟩ input.document.uri document.text input.position)
      (session.step (.call number .hover arguments)) session.afterAlarm := by
  refine ⟨rfl, rfl, rfl, ?_⟩
  change session.callTool number .hover arguments = _
  rw [callTool, perform_hover accepted isOpen]
  rfl

theorem carries_ring {alarm : Alarm} (owned : session.desk.owns alarm = true) :
    session.Carries (.ring alarm) (session.step (.ring alarm)) session := by
  refine ⟨rfl, rfl, rfl, ?_⟩
  change session.ring alarm = _
  rw [ring, if_pos owned]
  rfl

/-- An event is one at the desk, or it does not concern the desk. -/
def BringsOrAside (session : Session) (event : SessionEvent)
    (change : Session × List SessionAct) : Prop :=
  (∃ atDesk base, session.Brings event atDesk ∧ session.Carries atDesk change base) ∨
    session.Aside event change

theorem aside_finish {after : Session} (requests : after.desk.requests = session.desk.requests)
    (settling : after.desk.settling = session.desk.settling)
    (probing : ∀ number ∈ after.probing, number ∈ session.probing)
    (ends : session.EndsAside event number result) :
    session.BringsOrAside event (after, [.finish number result]) := by
  refine .inr ⟨requests, settling, fun other listed => .inl (probing other listed), ?_⟩
  intro other found listed
  obtain ⟨rfl, rfl⟩ := SessionAct.finish.inj (List.mem_singleton.mp listed)
  exact ends

theorem aside_silent {after : Session} (requests : after.desk.requests = session.desk.requests)
    (settling : after.desk.settling = session.desk.settling)
    (probing : after.probing = session.probing) : session.BringsOrAside event (after, []) := by
  refine .inr ⟨requests, settling, ?_, fun _ _ listed => absurd listed List.not_mem_nil⟩
  intro number listed
  rw [probing] at listed
  exact .inl listed

theorem aside_refusal {tool : Tool} {arguments : Json} {fault : Fault}
    (refusal : session.perform number arguments tool = .error fault) :
    session.BringsOrAside (.call number tool arguments)
      (session, [.finish number (.error fault)]) :=
  aside_finish rfl rfl (fun _ listed => listed) (.refused refusal)

theorem brings_of_hover (session : Session) (number : Nat) (arguments : Json) :
    session.BringsOrAside (.call number .hover arguments)
      (session.step (.call number .hover arguments)) := by
  rcases session.step_call number .hover arguments with ⟨fault, refusal, result⟩ |
    ⟨_, performed, -⟩
  · rw [result]
    exact aside_refusal refusal
  · obtain ⟨input, accepted, rest⟩ := bind_eq_ok performed
    obtain ⟨document, found, -⟩ := bind_eq_ok rest
    have isOpen := require_eq_ok_iff.mp found
    exact .inl ⟨_, _, .hover number accepted isOpen, session.carries_hover number accepted isOpen⟩

theorem brings_of_selection (session : Session) (number : Nat) (arguments : Json) :
    session.BringsOrAside (.call number .analyzeSelection arguments)
      (session.step (.call number .analyzeSelection arguments)) := by
  rcases session.step_call number .analyzeSelection arguments with ⟨fault, refusal, result⟩ |
    ⟨_, performed, result⟩
  · rw [result]
    exact aside_refusal refusal
  · obtain ⟨input, accepted, rest⟩ := bind_eq_ok performed
    obtain ⟨document, found, rest⟩ := bind_eq_ok rest
    split at rest
    · cases rest
    · next range selects =>
      obtain rfl := Except.ok.inj rest
      rw [result]
      exact .inl ⟨_, session, .selection number accepted (require_eq_ok_iff.mp found) selects,
        session.carries_self _⟩

/-- Whatever happens to a session happens at its desk, or does not concern those who wait there. -/
theorem brings_or_aside (session : Session) (event : SessionEvent) :
    session.BringsOrAside event (session.step event) := by
  generalize result : session.step event = change
  have outcome := session.outcome event
  rw [result] at outcome
  have same (number : Nat) (listed : number ∈ session.probing) : number ∈ session.probing := listed
  cases outcome with
  | hovered =>
      rw [← result]
      exact session.brings_of_hover _ _
  | selected =>
      rw [← result]
      exact session.brings_of_selection _ _
  | refused refusal => exact aside_refusal refusal
  | opened => exact aside_finish rfl rfl same (.done _ (by decide) _ _)
  | updated =>
      refine aside_finish ?_ ?_ ?_ (.done _ (by decide) _ _)
      · rw [(rearms_noteChange _ _).kept]
      · rw [(rearms_noteChange _ _).kept]
      · rw [(rearms_noteChange _ _).kept]
        exact same
  | closed => exact aside_finish rfl rfl same (.done _ (by decide) _ _)
  | toggled => exact aside_finish rfl rfl same (.done _ (by decide) _ _)
  | listed => exact aside_finish rfl rfl same (.done _ (by decide) _ _)
  | reported => exact aside_finish rfl rfl same (.done _ (by decide) _ _)
  | unreported => exact aside_finish rfl rfl same (.unreported _ _ _)
  | asked number arguments =>
      refine .inr ⟨rfl, rfl, ?_, ?_⟩
      · intro other listed
        rcases List.mem_append.mp listed with earlier | new
        · exact .inl earlier
        · rw [List.mem_singleton.mp new]
          exact .inr ⟨arguments, rfl⟩
      · intro other result listed
        cases List.mem_singleton.mp listed
  | probeDropped waits =>
      exact aside_finish rfl rfl (fun _ listed => List.mem_of_mem_erase listed) (.dropped waits)
  | withdrawn => exact .inl ⟨_, session, .cancel _, session.carries_self _⟩
  | woken owned => exact .inl ⟨_, session, .ring owned, session.carries_self _⟩
  | drawn => exact aside_silent rfl rfl rfl
  | received code reply => exact .inl ⟨_, session, .reply code reply, rfl, rfl, rfl, rfl⟩
  | handedOn code => exact .inl ⟨_, session, .handOn code, session.carries_self _⟩
  | heard waits reply =>
      exact aside_finish rfl rfl (fun _ listed => List.mem_of_mem_erase listed)
        (.heard waits reply _)
  | ignored => exact aside_silent rfl rfl rfl
  | waited => exact aside_silent rfl rfl rfl
  | elsewhere => exact aside_silent rfl rfl rfl

/-! ## What calls are told -/

/-- What a call that waited is told, by what the desk gives to it. -/
def resultOf (session : Session) (caller : Caller) : Except Fault Finding → Except Fault ToolResult
  | .ok (.verdict verdict) =>
    .ok (.analyzed caller.uri (verdict.notification session.showMetrics) verdict)
  | .ok (.function found) =>
    .ok (.hovered caller.uri
      (found.map fun judged => (judged.span, judged.verdict.popup session.showMetrics)))
  | .error fault => .error fault

theorem finish_act (session : Session) (caller : Caller) (finding : Except Fault Finding) :
    (session.finish caller finding).2 =
      .finish caller.call (session.resultOf caller finding) := by
  match finding with
  | .error fault => rfl
  | .ok (.function found) => rfl
  | .ok (.verdict verdict) => rfl

theorem resultOf_of_settings (settings : base.settings = session.settings) (caller : Caller)
    (finding : Except Fault Finding) :
    base.resultOf caller finding = session.resultOf caller finding := by
  have shows : base.showMetrics = session.showMetrics := by
    rw [showMetrics, settings, showMetrics]
  match finding with
  | .error fault => rfl
  | .ok (.function found) => rw [resultOf, shows, resultOf]
  | .ok (.verdict verdict) => rw [resultOf, shows, resultOf]

theorem mem_carryOut_of_give {caller : Caller} {finding : Except Fault Finding}
    {acts : List (DeskAct Caller)} (given : .give caller finding ∈ acts) (session : Session) :
    .finish caller.call (session.resultOf caller finding) ∈ (session.carryOut acts).2 := by
  induction acts generalizing session with
  | nil => exact absurd given List.not_mem_nil
  | cons act rest ih =>
      rcases List.mem_cons.mp given with rfl | later
      · exact List.mem_cons.mpr (.inl (session.finish_act caller finding).symm)
      · cases act with
        | ask code => exact List.mem_cons_of_mem _ (ih later session)
        | give other found =>
            have rearms := session.rearms_finish other found
            have settings : (session.finish other found).1.settings = session.settings := by
              rw [rearms.kept]
            rw [← resultOf_of_settings settings]
            exact List.mem_cons_of_mem _ (ih later _)

variable {change : Session × List SessionAct}

theorem Carries.tells (carries : session.Carries atDesk change base) {caller : Caller}
    {finding : Except Fault Finding}
    (given : .give caller finding ∈ (session.desk.step session.timeline atDesk).2) :
    .finish caller.call (session.resultOf caller finding) ∈ change.2 := by
  rw [carries.change, ← resultOf_of_settings carries.settings]
  exact mem_carryOut_of_give given
    { base with desk := (session.desk.step session.timeline atDesk).1 }

/-- A call that ends when something happens at the desk ends with what the desk gives. -/
theorem Carries.given (carries : session.Carries atDesk change base)
    (ends : .finish number result ∈ change.2) :
    ∃ caller finding, .give caller finding ∈ (session.desk.step session.timeline atDesk).2 ∧
      number = caller.call ∧ result = session.resultOf caller finding := by
  rw [carries.change] at ends
  rcases mem_carryOut ends with ⟨code, sends⟩ | ⟨caller, finding, given, same⟩
  · cases sends
  · rw [finish_act] at same
    obtain ⟨rfl, rfl⟩ := SessionAct.finish.inj same
    exact ⟨caller, finding, given, rfl, resultOf_of_settings carries.settings caller finding⟩

theorem Carries.desk_after (carries : session.Carries atDesk change base) :
    change.1.desk = (session.desk.step session.timeline atDesk).1 := by
  rw [carries.change, desk_atDesk]

theorem Carries.probing_after (carries : session.Carries atDesk change base) :
    change.1.probing = session.probing := by
  rw [carries.change, (base.rearms_atDesk _).kept]
  exact carries.probing

/-- How a call ends: at once, or with what the desk gives to it. -/
inductive Ends (session : Session) (event : SessionEvent) :
    Nat → Except Fault ToolResult → Prop where
  | aside {number : Nat} {result : Except Fault ToolResult}
      (ends : session.EndsAside event number result) : Ends session event number result
  | given {atDesk : DeskEvent Caller} (brings : session.Brings event atDesk) {caller : Caller}
      {finding : Except Fault Finding}
      (gives : session.desk.Gives session.timeline.now atDesk caller finding) :
      Ends session event caller.call (session.resultOf caller finding)

theorem ends_of_step (ends : .finish number result ∈ (session.step event).2) :
    session.Ends event number result := by
  rcases session.brings_or_aside event with ⟨atDesk, base, brings, carries⟩ | aside
  · obtain ⟨caller, finding, given, rfl, rfl⟩ := carries.given ends
    exact .given brings (Desk.gives_of_step given)
  · exact .aside (aside.ends number result ends)

/-! ## The past of a session -/

section

variable {moment : SessionMoment} (happened : moment = process.moment moment.state moment.event)

include happened

theorem acts_eq : moment.acts = (moment.state.step moment.event).2 := by
  rw [happened]
  rfl

theorem after_eq : moment.after = (moment.state.step moment.event).1 := by
  rw [happened]
  rfl

end

/-- If no other call has the number of a call, then whatever call has it is that one. -/
theorem eq_of_calls {before after : List SessionMoment} {called moment : SessionMoment}
    {tool other : Tool} {arguments given : Json}
    (calls : called.event = .call number tool arguments)
    (only : ∀ moment ∈ before ++ after, ∀ tool arguments,
      moment.event ≠ .call number tool arguments)
    (listed : moment ∈ before ++ called :: after)
    (happens : moment.event = .call number other given) :
    moment = called ∧ other = tool ∧ given = arguments := by
  rcases List.mem_append.mp listed with earlier | here
  · exact absurd happens (only moment (List.mem_append_left _ earlier) other given)
  · rcases List.mem_cons.mp here with rfl | later
    · rw [calls] at happens
      injection happens with _ sameTool sameArguments
      exact ⟨rfl, sameTool.symm, sameArguments.symm⟩
    · exact absurd happens (only moment (List.mem_append_right _ later) other given)

/-- An outcome was replied for code with a digest. -/
def Replied (past : List SessionMoment) (key : Digest) (outcome : Except Fault Verdict) : Prop :=
  ∃ moment ∈ past, ∃ code reply, moment.event = .codeReply code reply ∧
    contentDigest code = key ∧ moment.state.service.verdictOf reply = outcome

/-- A verdict was wanted on a text. -/
def Wanted (past : List SessionMoment) (waiter : Waiter Caller) (text : LooseText) : Prop :=
  ∃ moment ∈ past, moment.state.Wants moment.event waiter text

/-- The callers who wait in a session have called before, and what it has noted was replied
before. -/
structure Remembers (timeToLive : Int) (past : List SessionMoment) (session : Session) : Prop where
  -- Only who wants what is needed of the sources here, so any verdict may have been returned.
  desk : session.desk.Sourced timeToLive ⟨Wanted past, fun _ _ _ => True⟩
  notes : session.desk.NotesReplies (Replied past)
  probing : ∀ number ∈ session.probing, ∃ moment ∈ past, ∃ arguments,
    moment.event = .call number .checkHealth arguments

variable {past rest moments : List SessionMoment} {moment : SessionMoment} {first last : Session}
  {timeToLive : Int}

theorem Replied.append {key : Digest} {outcome : Except Fault Verdict}
    (replied : Replied past key outcome) (rest : List SessionMoment) :
    Replied (past ++ rest) key outcome := by
  obtain ⟨moment, listed, comes⟩ := replied
  exact ⟨moment, List.mem_append_left _ listed, comes⟩

theorem Wanted.append {waiter : Waiter Caller} {text : LooseText} (wanted : Wanted past waiter text)
    (rest : List SessionMoment) : Wanted (past ++ rest) waiter text := by
  obtain ⟨moment, listed, wants⟩ := wanted
  exact ⟨moment, List.mem_append_left _ listed, wants⟩

theorem Remembers.notes_step (remembers : Remembers timeToLive past session)
    (event : SessionEvent) :
    (session.step event).1.desk.NotesReplies
      (Replied (past ++ [process.moment session event])) := by
  have before : session.desk.NotesReplies (Replied (past ++ [process.moment session event])) :=
    remembers.notes.mono fun _ _ replied => replied.append _
  rcases session.brings_or_aside event with ⟨atDesk, base, brings, carries⟩ | aside
  · rw [carries.desk_after]
    refine before.step session.timeline atDesk ?_
    rintro code outcome rfl
    cases brings with
    | reply code reply =>
        exact ⟨_, List.mem_append_right _ (List.mem_singleton_self _), code, reply, rfl, rfl, rfl⟩
  · intro request listed
    rw [aside.requests] at listed
    exact before request listed

theorem Remembers.step (remembers : Remembers timeToLive past session) (event : SessionEvent) :
    Remembers timeToLive (past ++ [process.moment session event]) (session.step event).1 := by
  constructor
  · have before : session.desk.Sourced timeToLive
        ⟨Wanted (past ++ [process.moment session event]), fun _ _ _ => True⟩ :=
      remembers.desk.mono ⟨fun _ _ wanted => wanted.append _, fun _ _ _ _ => trivial⟩
    refine (sourced_step before ⟨fun _ _ wanted => wanted, fun _ _ _ _ => trivial⟩ ?_
      (fun _ _ _ _ _ => trivial)).1
    intro waiter text wants
    exact ⟨_, List.mem_append_right _ (List.mem_singleton_self _), wants⟩
  · exact remembers.notes_step event
  · intro number listed
    have earlier (waits : number ∈ session.probing) :
        ∃ moment ∈ past ++ [process.moment session event], ∃ arguments,
          moment.event = .call number .checkHealth arguments := by
      obtain ⟨moment, there, calls⟩ := remembers.probing number waits
      exact ⟨moment, List.mem_append_left _ there, calls⟩
    rcases session.brings_or_aside event with ⟨atDesk, base, brings, carries⟩ | aside
    · rw [carries.probing_after] at listed
      exact earlier listed
    · rcases aside.probing number listed with waits | ⟨arguments, calls⟩
      · exact earlier waits
      · exact ⟨_, List.mem_append_right _ (List.mem_singleton_self _), arguments, calls⟩

theorem remembers_of_course {settings : Settings} {acts : List SessionAct}
    (started : start? settings = some (first, acts)) (course : Course process first moments last) :
    Remembers first.desk.cache.timeToLive moments last := by
  refine course.history ?_ fun past state event _ _ remembers => remembers.step event
  obtain ⟨hoverDelay, timeToLive, rfl⟩ := start?_eq_some started
  exact ⟨Desk.sourced_start _ _ _ _, fun _ listed => absurd listed List.not_mem_nil,
    fun _ listed => absurd listed List.not_mem_nil⟩

end Session

end CodeComplexity
