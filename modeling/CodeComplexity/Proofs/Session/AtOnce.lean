import CodeComplexity.Proofs.Session.Endings
import CodeComplexity.Proofs.Session.Supersession

/-!
# Hovers that are answered at once

A hover that finds no function, a function that cannot be written, or a verdict that may be read is
answered at once.  It takes no number, and so it overtakes no hover that waits: while its document
stays open, a hover that waits gives up if and only if a newer one on the document has to wait too.
-/

namespace CodeComplexity

open Source

/-! ## The delay -/

namespace Desk

variable {κ : Type} {desk : Desk κ} {timeline : Timeline} {caller : κ} {uri : Uri}
  {text : Text.LooseText} {position : Position}

theorem hoverDelay_seek (desk : Desk κ) (now : Int) (waiter : Waiter κ) (code : String) :
    (desk.seek now waiter code).1.hoverDelay = desk.hoverDelay := by
  rw [seek]
  split
  · rfl
  · split
    · rfl
    · rfl
    · rfl

/-- Nothing that happens at a desk changes how long the cursor has to rest. -/
theorem hoverDelay_step (desk : Desk κ) (timeline : Timeline) (event : DeskEvent κ) :
    (desk.step timeline event).1.hoverDelay = desk.hoverDelay := by
  generalize result : desk.step timeline event = change
  have outcome := desk.outcome timeline event
  rw [result] at outcome
  cases outcome with
  | sought => exact desk.hoverDelay_seek _ _ _
  | @woken alarm => exact (desk.rested alarm).hoverDelay_seek _ _ _
  | handedOn =>
      rw [handOn]
      split
      · rfl
      · rfl
      · rfl
  | unwritten => rfl
  | nowhere => rfl
  | hoveredNowhere => rfl
  | blank => rfl
  | settled => rfl
  | superseded => rfl
  | unowned => rfl
  | withdrawn => rfl
  | received => rfl
  | stored => rfl
  | cleared => rfl
  | forgotten => rfl

/-! ## Hovers at the desk -/

/-- A hover over a place of a text is answered at once: there is no function around the place, or it
cannot be written, or its verdict may be read. -/
def AnswersAtOnce (desk : Desk κ) (now : Int) (text : Text.LooseText)
    (position : Position) : Prop :=
  ∀ span code, locateContaining text position = some span → span.text.encoded = .ok code →
    (desk.cache.get now code).1 ≠ none

/-- What a hover over a place of a text is answered at once. -/
def answerAt (desk : Desk κ) (now : Int) (text : Text.LooseText) (position : Position) :
    Except Fault Finding :=
  match locateContaining text position with
  | none => .ok (.function none)
  | some span =>
    match span.text.encoded with
    | .error error => .error (.unencodable error)
    | .ok code => .ok (.function ((desk.cache.get now code).1.map fun verdict => ⟨span, verdict⟩))

/-- A hover that is answered at once changes the cache at most. -/
theorem hover_of_answersAtOnce (atOnce : desk.AnswersAtOnce timeline.now text position) (caller : κ)
    (uri : Uri) :
    ∃ cache, desk.hover timeline caller uri text position =
      ({ desk with cache }, [.give caller (desk.answerAt timeline.now text position)]) := by
  rw [hover, answerAt]
  cases found : locateContaining text position with
  | none => exact ⟨desk.cache, rfl⟩
  | some span =>
      cases writes : span.text.encoded with
      | error error => exact ⟨desk.cache, by simp only [writes]⟩
      | ok code =>
          obtain ⟨verdict, read⟩ := Option.ne_none_iff_exists'.mp (atOnce span code found writes)
          simp only [writes, read, Option.map_some]
          split
          · next other cache hit =>
            rw [hit] at read
            obtain rfl := Option.some.inj read
            exact ⟨cache, rfl⟩
          · next cache miss =>
            rw [miss] at read
            cases read

/-- Any other hover waits, if there is a delay. -/
theorem settling_of_not_answersAtOnce (slow : ¬ desk.AnswersAtOnce timeline.now text position)
    (delay : 0 < desk.hoverDelay) (caller : κ) (uri : Uri) :
    ∃ hover, hover.uri = uri ∧
      (desk.hover timeline caller uri text position).1.settling = desk.settling ++ [hover] := by
  simp only [AnswersAtOnce, not_forall, not_not] at slow
  obtain ⟨span, code, found, writes, missed⟩ := slow
  rw [hover_eq_settle found writes missed delay]
  exact ⟨_, rfl, rfl⟩

/-- Only a hover that is not answered at once starts to wait, and only if there is a delay. -/
theorem slow_of_settling {hover : SettlingHover κ}
    (begins : hover ∈ (desk.hover timeline caller uri text position).1.settling.drop
      desk.settling.length) :
    hover.uri = uri ∧ ¬ desk.AnswersAtOnce timeline.now text position ∧ 0 < desk.hoverDelay := by
  have ends (still : (desk.hover timeline caller uri text position).1.settling = desk.settling) :
      False := by
    rw [still, List.drop_length] at begins
    cases begins
  cases found : locateContaining text position with
  | none =>
      rw [Desk.hover, found] at ends
      exact (ends rfl).elim
  | some span =>
      cases writes : span.text.encoded with
      | error error =>
          rw [hover_eq_give found writes] at ends
          exact (ends rfl).elim
      | ok code =>
          by_cases waits : (desk.cache.get timeline.now code).1 = none ∧ 0 < desk.hoverDelay
          · rw [hover_eq_settle found writes waits.1 waits.2, settle, List.drop_left,
              List.mem_singleton] at begins
            rw [begins]
            exact ⟨rfl, fun atOnce => atOnce span code found writes waits.1, waits.2⟩
          · rw [hover_eq_seek found writes (not_and_or.mp waits)] at ends
            exact (ends (desk.seek_still timeline.now ⟨caller, .hover span⟩ code).1).elim

end Desk

namespace Session

variable {session first last : Session} {moments past rest : List SessionMoment}
  {moment : SessionMoment} {hover newer : SettlingHover Caller} {uri : Uri}

/-- Nothing that happens to a session changes how long the cursor has to rest. -/
theorem hoverDelay_step (session : Session) (event : SessionEvent) :
    (session.step event).1.desk.hoverDelay = session.desk.hoverDelay := by
  generalize result : session.step event = change
  have outcome := session.outcome event
  rw [result] at outcome
  cases outcome with
  | hovered number arguments isOpen position =>
      rw [desk_atDesk]
      exact session.desk.hoverDelay_step session.timeline (.hover _ _ _ _)
  | selected =>
      rw [desk_atDesk]
      exact session.desk.hoverDelay_step session.timeline (.analyzeSelection _ _ _)
  | withdrawn =>
      rw [desk_atDesk]
      exact session.desk.hoverDelay_step session.timeline (.withdraw _)
  | woken =>
      rw [desk_atDesk]
      exact session.desk.hoverDelay_step session.timeline (.ring _)
  | handedOn =>
      rw [desk_atDesk]
      exact session.desk.hoverDelay_step session.timeline (.handOn _)
  | updated => rw [(rearms_noteChange _ _).kept]
  | refused => rfl
  | opened => rfl
  | closed => rfl
  | toggled => rfl
  | listed => rfl
  | reported => rfl
  | unreported => rfl
  | asked => rfl
  | probeDropped => rfl
  | drawn => rfl
  | received => rfl
  | heard => rfl
  | ignored => rfl
  | waited => rfl
  | elsewhere => rfl

theorem hoverDelay_of_course (course : Course process first moments last) :
    last.desk.hoverDelay = first.desk.hoverDelay := by
  induction course with
  | start => rfl
  | next event _ _ ih => exact (hoverDelay_step _ event).trans ih

theorem hoverDelay_of_mem (course : Course process first moments last) (listed : moment ∈ moments) :
    moment = process.moment moment.state moment.event ∧
      moment.state.desk.hoverDelay = first.desk.hoverDelay := by
  obtain ⟨before, after, rfl⟩ := List.append_of_mem listed
  obtain ⟨upTo, -, happened, -⟩ := course.split
  exact ⟨happened, hoverDelay_of_course upTo⟩

/-! ## Hovers of a session -/

/-- Whatever hover over a document comes at a moment, it is answered at once. -/
def HoversAtOnce (moment : SessionMoment) (uri : Uri) : Prop :=
  ∀ caller text position, moment.state.Brings moment.event (.hover caller uri text position) →
    moment.state.desk.AnswersAtOnce moment.state.timeline.now text position

/-- A hover ends with what it has found, and neither the hovers that wait nor the numbers of
documents nor the requests change. -/
structure AnsweredAtOnce (moment : SessionMoment) (caller : Caller)
    (finding : Except Fault Finding) : Prop where
  acts : moment.acts = [.finish caller.call (moment.state.resultOf caller finding)]
  settling : moment.after.desk.settling = moment.state.desk.settling
  numbers : moment.after.desk.numbers = moment.state.desk.numbers
  requests : moment.after.desk.requests = moment.state.desk.requests

theorem change_of_hover (happened : moment = process.moment moment.state moment.event)
    {caller : Caller} {text : Text.LooseText} {position : Position}
    (hovers : moment.state.Brings moment.event (.hover caller uri text position)) :
    (moment.after, moment.acts) = moment.state.afterAlarm.atDesk
      (moment.state.desk.hover moment.state.timeline caller uri text position) := by
  rw [acts_eq happened, after_eq happened]
  generalize moment.event = event at hovers
  cases hovers with
  | hover number accepted isOpen => exact (moment.state.carries_hover number accepted isOpen).change

theorem answeredAtOnce (happened : moment = process.moment moment.state moment.event)
    {caller : Caller} {text : Text.LooseText} {position : Position}
    (hovers : moment.state.Brings moment.event (.hover caller uri text position))
    (atOnce : moment.state.desk.AnswersAtOnce moment.state.timeline.now text position) :
    AnsweredAtOnce moment caller
      (moment.state.desk.answerAt moment.state.timeline.now text position) := by
  have change := change_of_hover happened hovers
  obtain ⟨cache, answer⟩ := Desk.hover_of_answersAtOnce atOnce caller uri
  rw [answer] at change
  have desk : moment.after.desk = { moment.state.desk with cache } :=
    (congrArg (Session.desk ∘ Prod.fst) change).trans (desk_atDesk _ _)
  constructor
  · exact (congrArg Prod.snd change).trans (congrArg List.singleton (finish_act _ _ _))
  · rw [desk]
  · rw [desk]
  · rw [desk]

/-- A hover starts to wait only if it is not answered at once, and only if there is a delay. -/
theorem slow_of_beginning (happened : moment = process.moment moment.state moment.event)
    (begins : newer ∈ beginning moment) :
    0 < moment.state.desk.hoverDelay ∧ ¬ HoversAtOnce moment newer.uri := by
  have still (fewer : moment.after.desk.settling.Sublist moment.state.desk.settling) : False := by
    rw [beginning, List.drop_eq_nil_of_le fewer.length_le] at begins
    cases begins
  rcases moment.state.brings_or_aside moment.event with ⟨atDesk, base, brings, carries⟩ | aside
  · have after := (congrArg Session.desk (after_eq happened)).trans carries.desk_after
    rw [after] at still
    generalize happens : moment.event = event at brings
    cases brings with
    | hover number accepted isOpen =>
        rw [beginning, after] at begins
        obtain ⟨same, slow, delay⟩ := Desk.slow_of_settling begins
        rw [same]
        refine ⟨delay, fun atOnce => slow ?_⟩
        apply atOnce ⟨number, _⟩
        rw [happens]
        exact .hover number accepted isOpen
    | selection => exact (still (moment.state.desk.calm_analyzeSelection _ _ _ _).settling).elim
    | cancel => exact (still (moment.state.desk.calm_withdraw _).settling).elim
    | ring => exact (still (moment.state.desk.calm_ring _ _).settling).elim
    | reply => exact (still (moment.state.desk.calm_receive _ _ _).settling).elim
    | handOn => exact (still (moment.state.desk.calm_handOn _).settling).elim
  · refine (still ?_).elim
    rw [after_eq happened, aside.settling]

theorem begins_of_slow (happened : moment = process.moment moment.state moment.event)
    (delay : 0 < moment.state.desk.hoverDelay) (slow : ¬ HoversAtOnce moment uri) :
    ∃ newer ∈ beginning moment, newer.uri = uri := by
  simp only [HoversAtOnce, not_forall] at slow
  obtain ⟨caller, text, position, hovers, slow⟩ := slow
  obtain ⟨newer, same, settling⟩ :=
    Desk.settling_of_not_answersAtOnce slow delay caller uri
  have after : moment.after.desk = _ :=
    (congrArg (Session.desk ∘ Prod.fst) (change_of_hover happened hovers)).trans (desk_atDesk _ _)
  refine ⟨newer, ?_, same⟩
  rw [beginning, after, settling, List.drop_left]
  exact List.mem_singleton_self newer

/-- As long as a document stays open, its count stays the same if all hovers over it are answered at
once. -/
theorem waitsSinceClose_append_of_atOnce {middle : List SessionMoment}
    (happened : ∀ moment ∈ middle, moment = process.moment moment.state moment.event)
    (stays : ∀ moment ∈ middle, closes moment uri = false)
    (atOnce : ∀ moment ∈ middle, HoversAtOnce moment uri) :
    waitsSinceClose uri (past ++ middle) = waitsSinceClose uri past := by
  refine waitsSinceClose_append_of_still stays fun moment listed => ?_
  refine List.countP_eq_zero.mpr fun newer startsToWait sameDocument => ?_
  have slow := (slow_of_beginning (happened moment listed) startsToWait).2
  rw [of_decide_eq_true sameDocument] at slow
  exact slow (atOnce moment listed)

/-! ## The law -/

/-- A hover that is answered at once overtakes no hover that waits.  While its document stays open,
a hover that has waited goes on if all newer ones on the document were answered at once, and gives
up otherwise. -/
theorem hovers_at_once_overtake_nothing {settings : Settings} {acts : List SessionAct}
    (started : start? settings = some (first, acts)) {middle : List SessionMoment}
    {begun woken : SessionMoment}
    (course : Course process first (past ++ begun :: (middle ++ woken :: rest)) last)
    (begins : hover ∈ beginning begun) (waits : hover ∈ woken.state.desk.settling)
    (wakes : woken.event = .ring hover.alarm) :
    (∀ moment ∈ middle, ∀ caller text position,
      moment.state.Brings moment.event (.hover caller hover.uri text position) →
      moment.state.desk.AnswersAtOnce moment.state.timeline.now text position →
      AnsweredAtOnce moment caller
        (moment.state.desk.answerAt moment.state.timeline.now text position)) ∧
    ((∀ moment ∈ middle, closes moment hover.uri = false) →
      ((∀ moment ∈ middle, HoversAtOnce moment hover.uri) →
        GoesOn woken hover ∧ hover.span.text = .ofString hover.code ∧
        ((woken.state.desk.cache.get woken.state.timeline.now hover.code).1 = none →
          woken.state.desk.request? hover.code = none →
          woken.acts = [.classify hover.code])) ∧
      ((∃ moment ∈ middle, ¬ HoversAtOnce moment hover.uri) → GivesUp woken hover)) := by
  obtain ⟨givesUp, goesOn⟩ := goesOn_or_givesUp started course begins waits wakes
  obtain ⟨-, -, begunHappened, onward⟩ := course.split
  obtain ⟨number, begin⟩ := (starts_of_beginning begunHappened begins).begins
  obtain ⟨between, -, -, -⟩ := onward.split
  have happened : ∀ moment ∈ middle, moment = process.moment moment.state moment.event :=
    fun moment listed => (hoverDelay_of_mem between listed).1
  refine ⟨fun moment listed caller text position => answeredAtOnce (happened moment listed), ?_⟩
  intro stays
  constructor
  · intro atOnce
    have same : waitsSinceClose hover.uri (past ++ begun :: middle) =
        waitsSinceClose hover.uri (past ++ [begun]) := by
      rw [List.append_cons]
      exact waitsSinceClose_append_of_atOnce happened stays atOnce
    exact ⟨goesOn same, begin.text_eq, (goesOn same).asks⟩
  · rintro ⟨moment, listed, slow⟩
    have delay : 0 < moment.state.desk.hoverDelay := by
      rw [(hoverDelay_of_mem between listed).2, begunHappened]
      exact (slow_of_beginning begunHappened begins).1.trans_eq (hoverDelay_step _ _).symm
    exact givesUp (waitsSinceClose_ne_of_newer stays
      ⟨moment, listed, begins_of_slow (happened moment listed) delay slow⟩)

/-- The cursor is below the text. -/
def belowText : Json :=
  .obj [("uri", .str "u"), ("line", .int 5)]

/-- The law at work: the cursor has left the function, and the hover over it sends its request
nevertheless. -/
theorem hovers_at_once_overtake_nothing_below :
    ∃ past begun left waited woken,
      Course process fresh (past ++ begun :: ([left, waited] ++ [woken])) woken.after ∧
      firstHover ∈ beginning begun ∧ AnsweredAtOnce left ⟨2, "u"⟩ (.ok (.function none)) ∧
      woken.event = .ring firstHover.alarm ∧ woken.acts = [.classify firstHover.code] := by
  let opened := process.moment fresh (.call 0 .openDocument oneFunction)
  let begun := process.moment opened.after (.call 1 .hover onFunction)
  let left := process.moment begun.after (.call 2 .hover belowText)
  let waited := process.moment left.after (.wait 300000)
  let woken := process.moment waited.after (.ring firstHover.alarm)
  have course : Course process fresh ([opened] ++ begun :: ([left, waited] ++ [woken]))
      woken.after :=
    Process.course_of_allows (show process.Allows fresh [.call 0 .openDocument oneFunction,
      .call 1 .hover onFunction, .call 2 .hover belowText, .wait 300000,
      .ring firstHover.alarm] from
      ⟨trivial, trivial, trivial, trivial, trivial, trivial⟩)
  have ⟨begins, isOpen, nowhere, delay, stays, noneBegins, waits, uncached, unrequested⟩ :
      firstHover ∈ beginning begun ∧
      Keyed.get? left.state.documents "u" = some ⟨firstHover.span.text, 1⟩ ∧
      locateContaining firstHover.span.text ⟨5, 0⟩ = none ∧
      (∀ moment ∈ [left, waited], 0 < moment.state.desk.hoverDelay) ∧
      (∀ moment ∈ [left, waited], closes moment firstHover.uri = false) ∧
      (∀ moment ∈ [left, waited], beginning moment = []) ∧
      firstHover ∈ woken.state.desk.settling ∧
      (woken.state.desk.cache.get woken.state.timeline.now firstHover.code).1.isNone = true ∧
      (woken.state.desk.request? firstHover.code).isNone = true := by
    decide +kernel
  have hovers : left.state.Brings left.event
      (.hover ⟨2, "u"⟩ "u" firstHover.span.text ⟨5, 0⟩) :=
    .hover 2 (show InputKind.hover.accept (HoverInput.ofMembers belowText) =
      .ok ⟨⟨"u", ""⟩, ⟨5, 0⟩⟩ from rfl) isOpen
  have atOnce : ∀ moment ∈ [left, waited], HoversAtOnce moment firstHover.uri := by
    intro moment listed
    by_contra slow
    have happened : moment = process.moment moment.state moment.event := by
      rcases List.mem_pair.mp listed with rfl | rfl <;> rfl
    obtain ⟨newer, startsToWait, -⟩ := begins_of_slow happened (delay moment listed) slow
    rw [noneBegins moment listed] at startsToWait
    cases startsToWait
  have ⟨answered, decides⟩ := hovers_at_once_overtake_nothing
    (show start? fresh.settings = some (fresh, [.probe none]) from rfl) course begins waits rfl
  have leaves := answered left (by simp) ⟨2, "u"⟩ firstHover.span.text ⟨5, 0⟩ hovers
    (atOnce left (by simp) _ _ _ hovers)
  rw [Desk.answerAt, nowhere] at leaves
  refine ⟨[opened], begun, left, waited, woken, course, begins, leaves, rfl, ?_⟩
  exact ((decides stays).1 atOnce).2.2 (Option.isNone_iff_eq_none.mp uncached)
    (Option.isNone_iff_eq_none.mp unrequested)

end Session

end CodeComplexity
