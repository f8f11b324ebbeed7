import CodeComplexity.Proofs.Classifier.Reply
import CodeComplexity.Proofs.Analysis.Hovers
import CodeComplexity.Proofs.Session.Endings
import CodeComplexity.Proofs.Session.Supersession

/-!
# What hovers come to

A hover over an open document waits until it is told something, and it is told a verdict or nothing
if the classifier gives none.  Only a function that cannot be written or a reply that breaks calls
makes it break.  Whatever it comes to, it leaves the cache alone if it finds no verdict.
-/

namespace CodeComplexity

open Source Text

/-! ## The call -/

/-- What a hover over a function is told of the outcome of its request: an expected failure leaves
it empty. -/
def hoverResult (uri : Uri) (span : FunctionSpan) (showMetrics : Bool) :
    Except Fault Verdict → Except Fault ToolResult
  | .ok verdict => .ok (.hovered uri (some (span, verdict.popup showMetrics)))
  | .error (.failure _) => .ok (.hovered uri none)
  | .error fault => .error fault

/-- A hover is told of a fault just for a reply that breaks calls. -/
theorem hoverResult_eq_error_iff {uri : Uri} {span : FunctionSpan} {showMetrics : Bool}
    {service : Service} {reply : Reply} {fault : Fault} :
    hoverResult uri span showMetrics (service.verdictOf reply) = .error fault ↔
      service.Breaks reply fault := by
  rw [Service.breaks_iff]
  cases service.verdictOf reply with
  | ok verdict => simp [hoverResult]
  | error other =>
      cases other with
      | failure failure =>
          simp only [hoverResult, reduceCtorEq, Except.error.injEq, false_iff, not_and, not_forall]
          rintro rfl
          exact ⟨failure, not_not_intro rfl⟩
      | _ =>
          simp only [hoverResult, Except.error.injEq]
          constructor
          · rintro rfl
            simp
          · exact And.left

/-- A call of a hover over an open document within a course.  No other call has its number. -/
structure HoverCall (moments : List SessionMoment) where
  before : List SessionMoment
  called : SessionMoment
  after : List SessionMoment
  number : Nat
  arguments : Json
  input : HoverInput
  document : Document
  whole : moments = before ++ called :: after
  calls : called.event = .call number .hover arguments
  accepted : InputKind.hover.accept (HoverInput.ofMembers arguments) = .ok input
  isOpen : Keyed.get? called.state.documents input.document.uri = some document
  only : ∀ moment ∈ before ++ after, ∀ tool arguments, moment.event ≠ .call number tool arguments

namespace HoverCall

variable {moments : List SessionMoment}

def uri (call : HoverCall moments) : Uri :=
  call.input.document.uri

def caller (call : HoverCall moments) : Caller :=
  ⟨call.number, call.uri⟩

def place? (call : HoverCall moments) : Option FunctionSpan :=
  locateContaining call.document.text call.input.position

/-- The function that a hover is about, and its code. -/
def About (call : HoverCall moments) (span : FunctionSpan) (code : String) : Prop :=
  call.place? = some span ∧ span.text = .ofString code

/-- What a hover is told at a moment, by what has happened before. -/
inductive Told (call : HoverCall moments) (past : List SessionMoment) (moment : SessionMoment) :
    Except Fault ToolResult → Prop where
  /-- There is no function. -/
  | nowhere (unfound : call.place? = none) : Told call past moment (.ok (.hovered call.uri none))
  /-- The function cannot be written. -/
  | unwritten {span : FunctionSpan} (found : call.place? = some span) {error : EncodeError}
      (fails : span.text.encoded = .error error) :
      Told call past moment (.error (.unencodable error))
  /-- Another hover has come meanwhile. -/
  | overtaken {hover : SettlingHover Caller} (waits : hover ∈ moment.state.desk.settling)
      (own : hover.caller = call.caller) (rings : moment.event = .ring hover.alarm) :
      Told call past moment (.ok (.hovered call.uri none))
  | cancelled (cancels : moment.event = .cancel call.number) :
      Told call past moment (.error .cancelled)
  | read {span : FunctionSpan} {code : String} (about : call.About span code) {kept : String}
      (same : contentDigest kept = contentDigest code) {verdict : Verdict}
      (read : (moment.state.desk.cache.get moment.state.timeline.now kept).1 = some verdict) :
      Told call past moment
        (hoverResult call.uri span moment.state.showMetrics (.ok verdict))
  | replied {span : FunctionSpan} {code : String} (about : call.About span code)
      {outcome : Except Fault Verdict}
      (replied : Session.Replied past (contentDigest code) outcome) :
      Told call past moment (hoverResult call.uri span moment.state.showMetrics outcome)

/-- Something happens that a hover does or waits for, and its reply brings no verdict. -/
inductive Own (call : HoverCall moments) (moment : SessionMoment) : Prop where
  | called (same : moment = call.called)
  | woken {hover : SettlingHover Caller} (waits : hover ∈ moment.state.desk.settling)
      (own : hover.caller = call.caller) (rings : moment.event = .ring hover.alarm)
  | failed {code : String} {reply : Reply} {fault : Fault}
      (replies : moment.event = .codeReply code reply)
      (fails : moment.state.service.verdictOf reply = .error fault)
  | handedOn {code : String} (hands : moment.event = .handOn code)
  | cancelled (cancels : moment.event = .cancel call.number)

/-- By now a hover has been told something, or it waits. -/
def ToldOrWaits (call : HoverCall moments) (past : List SessionMoment) (session : Session) : Prop :=
  (∃ moment ∈ past, ∃ result, .finish call.number result ∈ moment.acts) ∨
    ∃ span code, call.About span code ∧ session.desk.Waits call.caller span code

/-- What becomes of a hover in a course. -/
structure Answered (call : HoverCall moments) (last : Session) : Prop where
  /-- Whatever it is told, it is told for a reason. -/
  told : ∀ past moment rest result, moments = past ++ moment :: rest →
    .finish call.number result ∈ moment.acts → call.Told past moment result
  /-- It waits until it is told something, -/
  waits : call.ToldOrWaits moments last
  /-- for the cursor to rest until its alarm rings, -/
  woken : ∀ moment ∈ moments, ∀ hover ∈ moment.state.desk.settling, hover.caller = call.caller →
    moment.event = .ring hover.alarm →
    (∃ result, .finish call.number result ∈ moment.acts) ∨
      moment.after.desk.AwaitsReply call.caller hover.span hover.code
  /-- for a reply until it comes, -/
  replied : ∀ moment ∈ moments, ∀ sent reply span code, moment.event = .codeReply sent reply →
    contentDigest sent = contentDigest code →
    moment.state.desk.AwaitsReply call.caller span code →
    moment.after.desk.AwaitsOutcome call.caller span code (moment.state.service.verdictOf reply)
  /-- and then until it is handed on. -/
  handedOn : ∀ moment ∈ moments, ∀ sent span code outcome, moment.event = .handOn sent →
    contentDigest sent = contentDigest code →
    moment.state.desk.AwaitsOutcome call.caller span code outcome →
    .finish call.number (hoverResult call.uri span moment.state.showMetrics outcome) ∈ moment.acts
  /-- Unless it is told a verdict it leaves the cache alone. -/
  cache : ∀ moment ∈ moments, call.Own moment →
    (∀ found, .finish call.number (.ok (.hovered call.uri (some found))) ∉ moment.acts) →
    moment.after.desk.cache = moment.state.desk.cache

end HoverCall

namespace Session

variable {session : Session} {event : SessionEvent} {past : List SessionMoment} {timeToLive : Int}

theorem resultOf_hover (session : Session) (number : Nat) (uri : Uri) (span : FunctionSpan)
    (outcome : Except Fault Verdict) :
    session.resultOf ⟨number, uri⟩ ((Purpose.hover span).finding outcome) =
      hoverResult uri span session.showMetrics outcome := by
  cases outcome with
  | ok verdict => rfl
  | error fault => cases fault <;> rfl

theorem owns_of_settling {hover : SettlingHover Caller} (waits : hover ∈ session.desk.settling) :
    session.desk.owns hover.alarm = true :=
  List.any_eq_true.mpr ⟨hover, waits, by simp⟩

/-- A hover that waits goes on to do so until it is told something. -/
theorem told_or_waits_of_step {tickets : Nat} (ticketed : session.desk.Ticketed tickets)
    {caller : Caller} {span : FunctionSpan} {code : String}
    (waits : session.desk.Waits caller span code) (event : SessionEvent) :
    (∃ result, .finish caller.call result ∈ (session.step event).2) ∨
      (session.step event).1.desk.Waits caller span code := by
  rcases session.brings_or_aside event with ⟨atDesk, base, brings, carries⟩ | aside
  · rcases waits.step ticketed session.timeline atDesk with ⟨finding, given⟩ | waits
    · exact .inl ⟨_, carries.tells given⟩
    · rw [carries.desk_after]
      exact .inr waits
  · exact .inr (waits.of_same aside.requests aside.settling)

/-- Whoever wants a verdict of the desk wants it in the session. -/
theorem wants_of_brings {atDesk : DeskEvent Caller} (brings : session.Brings event atDesk)
    {waiter : Waiter Caller} {text : LooseText} (wants : atDesk.Wants waiter text) :
    session.Wants event waiter text := by
  cases brings with
  | hover number accepted isOpen =>
      cases wants with
      | hover caller uri found => exact .hover number accepted isOpen found
  | selection number accepted isOpen selects =>
      cases wants with
      | selection caller text range => exact .selection number accepted isOpen selects
  | cancel => cases wants
  | ring => cases wants
  | reply => cases wants
  | handOn => cases wants

/-- Whoever an event at the desk concerns has wanted a verdict by then. -/
theorem wanted_of_concerns (remembers : Remembers timeToLive past session)
    {atDesk : DeskEvent Caller} (brings : session.Brings event atDesk) {waiter : Waiter Caller}
    {key : Digest} (concerns : session.desk.Concerns atDesk waiter key) :
    ∃ code : String, Wanted (past ++ [process.moment session event]) waiter code ∧
      contentDigest code = key := by
  cases concerns with
  | asks wants writes =>
      obtain rfl := LooseText.encoded_eq_ok.mp writes
      exact ⟨_, ⟨_, List.mem_append_right _ (List.mem_singleton_self _),
        wants_of_brings brings wants⟩, rfl⟩
  | wakes waits => exact ⟨_, Wanted.append (remembers.desk.settling _ waits) _, rfl⟩
  | hands code listed waits =>
      obtain ⟨code, wanted, about⟩ := (remembers.desk.requests _ listed).waiting _ waits
      exact ⟨code, Wanted.append wanted _, about⟩

end Session

namespace HoverCall

open Session

variable {moments past rest : List SessionMoment} {moment : SessionMoment} {first last : Session}
  {timeToLive : Int}

theorem eq_called (call : HoverCall moments) (listed : moment ∈ moments) {tool : Tool}
    {arguments : Json} (calls : moment.event = .call call.number tool arguments) :
    moment = call.called ∧ tool = .hover ∧ arguments = call.arguments := by
  rw [call.whole] at listed
  exact eq_of_calls call.calls call.only listed calls

/-- What a call with the number of the hover is given is what the hover is given. -/
theorem eq_input (call : HoverCall moments) (listed : moment ∈ moments) {arguments : Json}
    (calls : moment.event = .call call.number .hover arguments) {input : HoverInput}
    {document : Document}
    (accepted : InputKind.hover.accept (HoverInput.ofMembers arguments) = .ok input)
    (isOpen : Keyed.get? moment.state.documents input.document.uri = some document) :
    input = call.input ∧ document = call.document := by
  obtain ⟨rfl, -, rfl⟩ := call.eq_called listed calls
  obtain rfl := Except.ok.inj (accepted.symm.trans call.accepted)
  exact ⟨rfl, Option.some.inj (isOpen.symm.trans call.isOpen)⟩

/-- Whatever is wanted under the number of the hover is the verdict on its function. -/
theorem eq_of_wanted (call : HoverCall moments) {within : List SessionMoment}
    (subset : within ⊆ moments) {waiter : Waiter Caller} {text : LooseText}
    (wanted : Wanted within waiter text) (own : waiter.caller.call = call.number) :
    ∃ span, call.place? = some span ∧ waiter = ⟨call.caller, .hover span⟩ ∧ text = span.text := by
  obtain ⟨moment, listed, wants⟩ := wanted
  generalize happens : moment.event = event at wants
  cases wants with
  | hover number accepted isOpen found =>
      obtain rfl : number = call.number := own
      obtain ⟨rfl, rfl⟩ := call.eq_input (subset listed) happens accepted isOpen
      exact ⟨_, found, rfl, rfl⟩
  | selection number accepted isOpen selects =>
      obtain rfl : number = call.number := own
      obtain ⟨-, other, -⟩ := call.eq_called (subset listed) happens
      cases other

theorem not_refused (call : HoverCall moments) {fault : Fault} :
    call.called.state.perform call.number call.arguments .hover ≠ .error fault := by
  rw [perform_hover call.accepted call.isOpen]
  simp

/-- A call that waits to hear whether the classifier is up is not the hover. -/
theorem not_probing (call : HoverCall moments) (remembers : Remembers timeToLive past last)
    (subset : past ⊆ moments) : call.number ∉ last.probing := by
  intro waits
  obtain ⟨moment, listed, arguments, calls⟩ := remembers.probing _ waits
  obtain ⟨-, other, -⟩ := call.eq_called (subset listed) calls
  cases other

/-- What the desk gives to a hover, the hover is told for a reason. -/
theorem told_of_gives (call : HoverCall moments) (split : moments = past ++ moment :: rest)
    (happened : moment = process.moment moment.state moment.event)
    (remembers : Remembers timeToLive past moment.state) {atDesk : DeskEvent Caller}
    (brings : moment.state.Brings moment.event atDesk) {caller : Caller}
    (own : caller.call = call.number) {finding : Except Fault Finding}
    (gives : moment.state.desk.Gives moment.state.timeline.now atDesk caller finding) :
    call.Told past moment (moment.state.resultOf caller finding) := by
  have listed : moment ∈ moments := by rw [split]; simp
  have upTo : past ++ [moment] ⊆ moments := by rw [split]; simp
  have concerned {waiter : Waiter Caller} {key : Digest} (same : waiter.caller.call = call.number)
      (concerns : moment.state.desk.Concerns atDesk waiter key) :
      ∃ span code, call.About span code ∧ waiter = ⟨call.caller, .hover span⟩ ∧
        contentDigest code = key := by
    obtain ⟨code, wanted, keyed⟩ := wanted_of_concerns remembers brings concerns
    rw [← happened] at wanted
    obtain ⟨span, found, eq, text⟩ := call.eq_of_wanted upTo wanted same
    exact ⟨span, code, ⟨found, text.symm⟩, eq, keyed⟩
  -- Whatever is given is given for want of a function or to a caller whom the event concerns, and
  -- among those only the hover has its number.
  generalize happens : moment.event = event at brings
  cases gives with
  | nowhere => cases brings
  | hoveredNowhere caller uri unfound =>
      cases brings with
      | hover number accepted isOpen =>
          obtain rfl : number = call.number := own
          obtain ⟨rfl, rfl⟩ := call.eq_input listed happens accepted isOpen
          exact .nowhere unfound
  | blank =>
      cases brings with
      | selection number accepted isOpen selects =>
          obtain rfl : number = call.number := own
          obtain ⟨-, other, -⟩ := call.eq_called listed happens
          cases other
  | unwritten wants fails =>
      have wanted : Wanted (past ++ [moment]) _ _ :=
        ⟨moment, List.mem_append_right _ (List.mem_singleton_self _),
          wants_of_brings (happens ▸ brings) wants⟩
      obtain ⟨span, found, same, rfl⟩ := call.eq_of_wanted upTo wanted own
      rw [same]
      exact .unwritten found fails
  | @superseded hover waits =>
      obtain ⟨span, -, -, same, -⟩ := concerned own (.wakes waits)
      have caller : hover.caller = call.caller := congrArg Waiter.caller same
      cases brings with
      | ring owned =>
          rw [caller]
          exact .overtaken waits caller happens
  | withdrawn concerned =>
      cases brings with
      | cancel number =>
          obtain rfl : _ = number := of_decide_eq_true concerned
          rw [own] at happens
          exact .cancelled happens
  | known concerns knows =>
      obtain ⟨span, code, about, rfl, keyed⟩ := concerned own concerns
      change call.Told past moment
        (moment.state.resultOf ⟨call.number, call.uri⟩ ((Purpose.hover span).finding _))
      rw [resultOf_hover]
      cases knows with
      | read read => exact .read about keyed.symm read
      | replied listed noted =>
          refine .replied about ?_
          rw [keyed]
          exact remembers.notes _ listed _ noted

/-- Whatever a hover is told, it is told for a reason. -/
theorem told_of_finish (call : HoverCall moments) (split : moments = past ++ moment :: rest)
    (happened : moment = process.moment moment.state moment.event)
    (remembers : Remembers timeToLive past moment.state) {result : Except Fault ToolResult}
    (ends : .finish call.number result ∈ moment.acts) : call.Told past moment result := by
  have listed : moment ∈ moments := by rw [split]; simp
  have earlier : past ⊆ moments := by rw [split]; simp
  rw [acts_eq happened] at ends
  have ended := ends_of_step ends
  generalize named : call.number = number at ended
  cases ended with
  | given brings gives => exact call.told_of_gives split happened remembers brings named.symm gives
  | aside aside =>
      generalize happens : moment.event = event at aside
      cases aside with
      | refused refusal =>
          subst named
          obtain ⟨rfl, rfl, rfl⟩ := call.eq_called listed happens
          exact absurd refusal call.not_refused
      | done _ elsewhere =>
          subst named
          obtain ⟨-, rfl, -⟩ := call.eq_called listed happens
          exact absurd rfl elsewhere
      | unreported =>
          subst named
          obtain ⟨-, other, -⟩ := call.eq_called listed happens
          cases other
      | dropped waits =>
          subst named
          exact absurd waits (call.not_probing remembers earlier)
      | heard waits =>
          subst named
          exact absurd waits (call.not_probing remembers earlier)

theorem told_or_waits_at_call (call : HoverCall moments)
    (happened : call.called = process.moment call.called.state call.called.event) :
    call.ToldOrWaits [call.called] call.called.after := by
  have carries := call.called.state.carries_hover call.number call.accepted call.isOpen
  rw [← call.calls] at carries
  have told {finding : Except Fault Finding}
      (given : .give call.caller finding ∈ (call.called.state.desk.hover
        call.called.state.timeline call.caller call.uri call.document.text
        call.input.position).2) : call.ToldOrWaits [call.called] call.called.after := by
    have ends := carries.tells given
    rw [← acts_eq happened] at ends
    exact .inl ⟨_, List.mem_singleton_self _, _, ends⟩
  cases found : locateContaining call.document.text call.input.position with
  | none =>
      apply told
      rw [Desk.hover, found]
      exact List.mem_singleton_self _
  | some span =>
      cases writes : span.text.encoded with
      | error error =>
          apply told
          rw [Desk.hover_eq_give found writes]
          exact List.mem_singleton_self _
      | ok code =>
          rcases call.called.state.desk.serves_or_waits_of_hover call.called.state.timeline
            call.caller call.uri found writes with ⟨finding, given⟩ | waits
          · exact told given
          · refine .inr ⟨span, code, ⟨found, LooseText.encoded_eq_ok.mp writes⟩, ?_⟩
            rw [after_eq happened, carries.desk_after]
            exact waits

theorem told_or_waits (call : HoverCall moments) {settings : Settings} {acts : List SessionAct}
    (started : start? settings = some (first, acts))
    (toCalled : Course process first past call.called.after)
    (atCall : call.ToldOrWaits [call.called] call.called.after)
    (course : Course process call.called.after rest last) :
    call.ToldOrWaits (call.called :: rest) last := by
  induction course with
  | start => exact atCall
  | next event toSession allowed ih =>
      rcases ih with ⟨moment, listed, told⟩ | ⟨span, code, about, waits⟩
      · exact .inl ⟨moment, List.mem_append_left _ listed, told⟩
      · have counted := counted_of_course started (toCalled.append toSession)
        rcases told_or_waits_of_step counted.ticketed waits event with told | waits
        · left
          exact ⟨_, List.mem_cons_of_mem _ (List.mem_append_right _ (List.mem_singleton_self _)),
            told⟩
        · exact .inr ⟨span, code, about, waits⟩

/-! ## The law -/

variable {hover : SettlingHover Caller} {code sent : String} {span : FunctionSpan}

/-- When its alarm rings, a hover is told something or waits for a reply. -/
theorem told_or_awaits_of_ring (call : HoverCall moments)
    (happened : moment = process.moment moment.state moment.event) {tickets : Nat}
    (ticketed : moment.state.desk.Ticketed tickets) (waits : hover ∈ moment.state.desk.settling)
    (own : hover.caller = call.caller) (rings : moment.event = .ring hover.alarm) :
    (∃ result, .finish call.number result ∈ moment.acts) ∨
      moment.after.desk.AwaitsReply call.caller hover.span hover.code := by
  have carries := carries_ring (owns_of_settling waits)
  rw [← own, acts_eq happened, after_eq happened, rings, carries.desk_after]
  rcases ticketed.serves_or_awaits_of_ring moment.state.timeline waits with
    ⟨finding, given⟩ | awaits
  · have told := carries.tells given
    rw [own] at told
    exact .inl ⟨_, told⟩
  · exact .inr awaits

/-- When a reply is handed on that has come, the hover that waits for it is told what it comes
to. -/
theorem told_of_handOn (call : HoverCall moments)
    (happened : moment = process.moment moment.state moment.event)
    (hands : moment.event = .handOn sent) (about : contentDigest sent = contentDigest code)
    {outcome : Except Fault Verdict}
    (awaits : moment.state.desk.AwaitsOutcome call.caller span code outcome) :
    .finish call.number (hoverResult call.uri span moment.state.showMetrics outcome) ∈
      moment.acts := by
  have told := (moment.state.carries_self (.handOn sent)).tells (awaits.handOn about)
  rw [happened, hands, ← resultOf_hover]
  exact told

/-- What happens at the desk leaves the cache alone if it does so or gives the hover a verdict, and
the hover is told none. -/
theorem cache_of_carries (call : HoverCall moments)
    (happened : moment = process.moment moment.state moment.event) {atDesk : DeskEvent Caller}
    {base : Session} (carries : moment.state.Carries atDesk (moment.state.step moment.event) base)
    (either : (moment.state.desk.step moment.state.timeline atDesk).1.cache =
        moment.state.desk.cache ∨
      ∃ judged, .give call.caller (.ok (.function (some judged))) ∈
        (moment.state.desk.step moment.state.timeline atDesk).2)
    (untold : ∀ found,
      .finish call.number (.ok (.hovered call.uri (some found))) ∉ moment.acts) :
    moment.after.desk.cache = moment.state.desk.cache := by
  rcases either with same | ⟨judged, given⟩
  · rw [after_eq happened, carries.desk_after]
    exact same
  · have told := carries.tells given
    rw [← acts_eq happened] at told
    exact absurd told (untold _)

/-- Unless it is told a verdict, a hover leaves the cache alone. -/
theorem cache_of_own (call : HoverCall moments)
    (happened : moment = process.moment moment.state moment.event) {tickets : Nat}
    (ticketed : moment.state.desk.Ticketed tickets) (own : call.Own moment)
    (untold : ∀ found,
      .finish call.number (.ok (.hovered call.uri (some found))) ∉ moment.acts) :
    moment.after.desk.cache = moment.state.desk.cache := by
  cases own with
  | called same =>
      subst same
      have carries := call.called.state.carries_hover call.number call.accepted call.isOpen
      rw [← call.calls] at carries
      exact call.cache_of_carries happened carries
        (Desk.cache_hover_or_given _ _ call.caller _ _ _) untold
  | @woken hover waits own rings =>
      have carries := carries_ring (owns_of_settling waits)
      rw [← rings] at carries
      refine call.cache_of_carries happened carries ?_ untold
      rw [← own]
      exact Desk.cache_ring_or_given ticketed waits _
  | failed replies fails =>
      rw [happened, replies]
      change Desk.stored _ _ _ (moment.state.service.verdictOf _) = _
      rw [fails]
      rfl
  | handedOn hands =>
      rw [happened, hands]
      change (moment.state.atDesk (moment.state.desk.handOn _)).1.desk.cache = _
      rw [desk_atDesk, Desk.cache_handOn]
      rfl
  | cancelled cancels =>
      rw [happened, cancels]
      change (moment.state.cancel call.number).1.desk.cache = _
      rw [cancel]
      split
      · rfl
      · rw [desk_atDesk]
        rfl

end HoverCall

namespace Session

/-- A hover over an open document waits until it is told something: a verdict, or nothing if it has
been cancelled, overtaken, or if the classifier gives no verdict.  It breaks just if its function
cannot be written or a reply for it breaks calls.  If it finds no verdict it leaves the cache
alone. -/
theorem hovers_break_with_replies {settings : Settings} {first last : Session}
    {acts : List SessionAct} (started : start? settings = some (first, acts))
    {moments : List SessionMoment} (course : Course process first moments last)
    (call : HoverCall moments) :
    call.Answered last ∧
      ∀ span showMetrics (service : Service) reply fault,
        hoverResult call.uri span showMetrics (service.verdictOf reply) = .error fault ↔
          service.Breaks reply fault := by
  refine ⟨?_, fun _ _ _ _ _ => hoverResult_eq_error_iff⟩
  have within {moment : SessionMoment} (listed : moment ∈ moments) :
      moment = process.moment moment.state moment.event ∧
        ∃ past, Counted past moment.state := by
    obtain ⟨past, rest, rfl⟩ := List.append_of_mem listed
    obtain ⟨before, -, happened, -⟩ := course.split
    exact ⟨happened, past, counted_of_course started before⟩
  constructor
  · intro past moment rest result split ends
    rw [split] at course
    obtain ⟨before, -, happened, -⟩ := course.split
    exact call.told_of_finish split happened (remembers_of_course started before) ends
  · rw [call.whole] at course
    obtain ⟨before, allowed, happened, onward⟩ := course.split
    have toCalled := before.append (Course.of_moment allowed happened)
    refine (call.told_or_waits started toCalled (call.told_or_waits_at_call happened)
      onward).imp_left ?_
    rintro ⟨moment, listed, told⟩
    refine ⟨moment, ?_, told⟩
    rw [call.whole]
    exact List.mem_append_right _ listed
  · intro moment listed hover waits own rings
    obtain ⟨happened, past, counted⟩ := within listed
    exact call.told_or_awaits_of_ring happened counted.ticketed waits own rings
  · intro moment listed sent reply span code replies about awaits
    rw [(within listed).1, replies]
    exact awaits.receive _ about _
  · intro moment listed sent span code outcome hands about awaits
    exact call.told_of_handOn (within listed).1 hands about awaits
  · intro moment listed own untold
    obtain ⟨happened, past, counted⟩ := within listed
    exact call.cache_of_own happened counted.ticketed own untold

end Session

/-- An act that asks the classifier for something. -/
def SessionAct.asks : SessionAct → Bool
  | .classify _ | .probe _ => true
  | .finish _ _ => false

namespace Session

/-- The law at work: a hover breaks whose request cannot be sent. -/
theorem hovers_break_with_replies_unsent :
    ∃ past moment, Course process fresh (past ++ [moment]) moment.after ∧
      .finish 1 (.error (.unsent .invalidAddress)) ∈ moment.acts := by
  let code := firstHover.code
  let opened := process.moment fresh (.call 0 .openDocument oneFunction)
  let called := process.moment opened.after (.call 1 .hover onFunction)
  let waited := process.moment called.after (.wait 300000)
  let woken := process.moment waited.after (.ring firstHover.alarm)
  let replied := process.moment woken.after (.codeReply code (.unsent .invalidAddress))
  let handed := process.moment replied.after (.handOn code)
  have course : Course process fresh ([opened] ++ called :: [waited, woken, replied, handed])
      handed.after :=
    Process.course_of_allows (show process.Allows fresh [.call 0 .openDocument oneFunction,
      .call 1 .hover onFunction, .wait 300000, .ring firstHover.alarm,
      .codeReply code (.unsent .invalidAddress), .handOn code] from
      ⟨trivial, trivial, trivial, trivial, trivial, trivial, trivial⟩)
  have accepted : InputKind.hover.accept (HoverInput.ofMembers onFunction) =
      .ok ⟨⟨"u", ""⟩, ⟨0, 0⟩⟩ := rfl
  obtain ⟨document, isOpen⟩ : ∃ document, Keyed.get? called.state.documents "u" = some document :=
    Option.isSome_iff_exists.mp (by decide +kernel)
  have only : ∀ moment ∈ [opened] ++ [waited, woken, replied, handed], ∀ tool arguments,
      moment.event ≠ .call 1 tool arguments := by
    intro moment listed tool arguments calls
    have happens : moment.event ∈ [.call 0 .openDocument oneFunction, .wait 300000,
        .ring firstHover.alarm, .codeReply code (.unsent .invalidAddress), .handOn code] :=
      List.mem_map.mpr ⟨moment, listed, rfl⟩
    rw [calls] at happens
    simp at happens
  let call : HoverCall ([opened] ++ called :: [waited, woken, replied, handed]) :=
    ⟨[opened], called, [waited, woken, replied, handed], 1, onFunction, ⟨⟨"u", ""⟩, ⟨0, 0⟩⟩,
      document, rfl, rfl, accepted, isOpen, only⟩
  obtain ⟨answered, breaks⟩ := hovers_break_with_replies
    (show start? fresh.settings = some (fresh, [.probe none]) from rfl) course call
  have waits : firstHover ∈ woken.state.desk.settling := by decide +kernel
  have asks : woken.acts.all SessionAct.asks = true := by decide +kernel
  have awaits : woken.after.desk.AwaitsReply call.caller firstHover.span code := by
    refine (answered.woken woken (by simp) firstHover waits rfl rfl).resolve_left ?_
    rintro ⟨result, told⟩
    exact absurd (List.all_eq_true.mp asks _ told) Bool.false_ne_true
  have noted := answered.replied replied (by simp) code _ firstHover.span code rfl rfl awaits
  have told := answered.handedOn handed (by simp) code firstHover.span code _ rfl rfl noted
  rw [(breaks _ _ _ _ _).mpr (.unsent .invalidAddress)] at told
  exact ⟨[opened, called, waited, woken, replied], handed, course, told⟩

end Session

end CodeComplexity
