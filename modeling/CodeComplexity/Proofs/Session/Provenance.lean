import CodeComplexity.Proofs.Analysis.Provenance
import CodeComplexity.Proofs.Marking.Tallies
import CodeComplexity.Proofs.Session.Markers

/-!
# Where the verdicts of a session come from

A session shows verdicts in many places: as results of hovers and analyses, as markers, and counted
in tallies.  All of them go back to replies of the classifier: results by way of the desk, markers
and tallies by way of the cache.  A reply comes only to a request that has been sent, so a session
is looked at together with its requests that are out.
-/

namespace CodeComplexity

open Source Text

variable {session : Session} {timeToLive : Int} {record later : Record Caller} {uri : Uri}

namespace Session

/-- A call wants the verdict on a text. -/
inductive Wants (session : Session) : SessionEvent → Waiter Caller → LooseText → Prop where
  | hover (number : Nat) {arguments : Json} {input : HoverInput} {document : Document}
      {span : FunctionSpan}
      (accepted : InputKind.hover.accept (HoverInput.ofMembers arguments) = .ok input)
      (isOpen : Keyed.get? session.documents input.document.uri = some document)
      (found : locateContaining document.text input.position = some span) :
      Wants session (.call number .hover arguments)
        ⟨⟨number, input.document.uri⟩, .hover span⟩ span.text
  | selection (number : Nat) {arguments : Json} {input : SelectionInput} {document : Document}
      {range : Option TextRange}
      (accepted : InputKind.selection.accept (SelectionInput.ofMembers arguments) = .ok input)
      (isOpen : Keyed.get? session.documents input.document.uri = some document)
      (selects : input.bounds.range.titled "TextRange" = .ok range) :
      Wants session (.call number .analyzeSelection arguments)
        ⟨⟨number, input.document.uri⟩, .verdict⟩ (extractText document.text range)

end Session

/-- What a call ends with holds no verdict, or one that was returned for the code, by its digest, on
which it was wanted. -/
def SessionAct.Sourced (showMetrics : Bool) (record : Record Caller) : SessionAct → Prop
  | .finish call (.ok (.analyzed uri notification verdict)) =>
    ∃ purpose, ∃ code : String, record.wanted ⟨⟨call, uri⟩, purpose⟩ code ∧
      record.Returned (contentDigest code) verdict ∧
      purpose.finding (.ok verdict) = .ok (.verdict verdict) ∧
      notification = verdict.notification showMetrics
  | .finish call (.ok (.hovered uri (some (span, popup)))) =>
    ∃ purpose, ∃ code : String, ∃ verdict, record.wanted ⟨⟨call, uri⟩, purpose⟩ code ∧
      record.Returned (contentDigest code) verdict ∧
      purpose.finding (.ok verdict) = .ok (.function (some ⟨span, verdict⟩)) ∧
      popup = verdict.popup showMetrics
  | _ => True

namespace Session

/-! ## What the session tells its callers -/

/-- A call ends with what the desk has found for it. -/
theorem sourced_finish (session : Session) {caller : Caller} {finding : Except Fault Finding}
    (given : (DeskAct.give caller finding).Sourced record) :
    (session.finish caller finding).2.Sourced session.showMetrics record := by
  match finding with
  | .error fault => trivial
  | .ok (.function none) => trivial
  | .ok (.verdict verdict) =>
      rcases given _ rfl with nothing | ⟨purpose, code, reached, wanted, returned, made⟩
      · cases nothing
      · cases purpose with
        | verdict =>
            cases made
            exact ⟨.verdict, code, wanted, returned, rfl, rfl⟩
        | function span => cases made
        | hover span => cases made
  | .ok (.function (some judged)) =>
      rcases given _ rfl with nothing | ⟨purpose, code, reached, wanted, returned, made⟩
      · cases nothing
      · cases purpose with
        | verdict => cases made
        | function span =>
            cases made
            exact ⟨.function span, code, reached, wanted, returned, rfl, rfl⟩
        | hover span =>
            cases made
            exact ⟨.hover span, code, reached, wanted, returned, rfl, rfl⟩

theorem Rearms.finish_eq {before after : Session} (rearms : before.Rearms after) (caller : Caller)
    (finding : Except Fault Finding) :
    (after.finish caller finding).2 = (before.finish caller finding).2 := by
  rw [rearms.kept]
  match finding with
  | .error fault => rfl
  | .ok (.function found) => rfl
  | .ok (.verdict verdict) => rfl

/-- The session sends what the desk asks, and ends the calls to which the desk gives something. -/
theorem mem_carryOut {act : SessionAct} {acts : List (DeskAct Caller)}
    (listed : act ∈ (session.carryOut acts).2) :
    (∃ code, act = .classify code) ∨
      ∃ caller finding, .give caller finding ∈ acts ∧ act = (session.finish caller finding).2 := by
  induction acts generalizing session with
  | nil => exact absurd listed List.not_mem_nil
  | cons first rest ih =>
      cases first with
      | ask code =>
          rcases List.mem_cons.mp listed with rfl | further
          · exact .inl ⟨code, rfl⟩
          · rcases ih further with sends | ⟨caller, finding, given, made⟩
            · exact .inl sends
            · exact .inr ⟨caller, finding, List.mem_cons_of_mem _ given, made⟩
      | give caller finding =>
          rcases List.mem_cons.mp listed with rfl | further
          · exact .inr ⟨caller, finding, List.mem_cons_self, rfl⟩
          · rcases ih further with sends | ⟨other, found, given, made⟩
            · exact .inl sends
            · refine .inr ⟨other, found, List.mem_cons_of_mem _ given, made.trans ?_⟩
              exact (session.rearms_finish caller finding).finish_eq other found

theorem sourced_atDesk (session : Session) {change : Desk Caller × List (DeskAct Caller)}
    (given : change.1.Sourced timeToLive later ∧ ∀ act ∈ change.2, act.Sourced record) :
    (session.atDesk change).1.desk.Sourced timeToLive later ∧
      ∀ act ∈ (session.atDesk change).2, act.Sourced session.showMetrics record := by
  constructor
  · rw [desk_atDesk]
    exact given.1
  · intro act listed
    rcases mem_carryOut listed with ⟨code, rfl⟩ | ⟨caller, finding, told, rfl⟩
    · trivial
    · exact sourced_finish { session with desk := change.1 } (given.2 _ told)

/-- What a tool does, or that it refuses. -/
theorem step_call (session : Session) (number : Nat) (tool : Tool) (arguments : Json) :
    (∃ fault, session.perform number arguments tool = .error fault ∧
      session.step (.call number tool arguments) = (session, [.finish number (.error fault)])) ∨
    ∃ result, session.perform number arguments tool = .ok result ∧
      session.step (.call number tool arguments) = result := by
  change (∃ fault, _ ∧ session.callTool number tool arguments = _) ∨
    ∃ result, _ ∧ session.callTool number tool arguments = result
  rw [callTool]
  split
  · next result done => exact .inr ⟨result, done, rfl⟩
  · next fault refusal => exact .inl ⟨fault, refusal, rfl⟩

theorem sourced_refusal (sourced : session.desk.Sourced timeToLive later) (number : Nat)
    (fault : Fault) :
    session.desk.Sourced timeToLive later ∧
      ∀ act ∈ [SessionAct.finish number (.error fault)],
        act.Sourced session.showMetrics record :=
  ⟨sourced, List.forall_mem_singleton.mpr trivial⟩

/-! ## Passes and tallies -/

end Session

theorem Desk.Sourced.lookUpAll {desk : Desk Caller} (sourced : desk.Sourced timeToLive record)
    (now : Int) (spans : List FunctionSpan) :
    { desk with cache := (lookUpAll (some now) spans desk.cache).2 }.Sourced timeToLive record := by
  induction spans generalizing desk with
  | nil => exact sourced
  | cons span rest ih =>
      rw [CodeComplexity.lookUpAll, Cache.look]
      cases span.text.encoded with
      | error error => exact sourced
      | ok code => exact ih (sourced.look now code)

namespace Canvas

variable {canvas : Canvas} {documents : Documents} {now : Int}

/-- A pass looks up functions and does nothing else to the cache. -/
theorem cache_pass (canvas : Canvas) (now : Int) (documents : Documents) (uri : Uri) :
    ∃ spans, (canvas.pass (some now) documents uri).1.cache =
      (lookUpAll (some now) spans canvas.cache).2 := by
  rw [pass]
  split
  · split
    · exact ⟨[], rfl⟩
    · next document _ =>
      refine ⟨locateAll document.text, ?_⟩
      split
      · next judged => exact (congrArg Prod.snd judged).symm
      · next judged => exact (congrArg Prod.snd judged).symm
  · exact ⟨[], rfl⟩

theorem cache_ring (canvas : Canvas) (now : Int) (documents : Documents) (alarm : Alarm) :
    ∃ spans, (canvas.ring (some now) documents alarm).1.cache =
      (lookUpAll (some now) spans canvas.cache).2 := by
  cases due : canvas.annotator.documentOf? alarm with
  | none =>
      rw [ring_of_none due]
      exact ⟨[], rfl⟩
  | some uri =>
      rw [ring_of_some due]
      exact cache_pass _ now documents uri

theorem cache_setEnabled (canvas : Canvas) (now : Int) (documents : Documents) (enabled : Bool) :
    ∃ spans, (canvas.setEnabled (some now) documents enabled).1.cache =
      (lookUpAll (some now) spans canvas.cache).2 := by
  rw [setEnabled]
  dsimp only
  split
  · exact ⟨[], rfl⟩
  · split
    · split
      · exact ⟨[], rfl⟩
      · exact cache_pass _ now documents _
    · exact ⟨[], rfl⟩

end Canvas

namespace Session

theorem sourced_paint {change : Canvas × List Redraw}
    (sourced : session.desk.Sourced timeToLive record) {now : Int}
    (looks : ∃ spans, change.1.cache = (lookUpAll (some now) spans session.desk.cache).2) :
    (session.paint change).desk.Sourced timeToLive record := by
  obtain ⟨spans, cache⟩ := looks
  change { session.desk with cache := change.1.cache }.Sourced timeToLive record
  rw [cache]
  exact sourced.lookUpAll now spans

/-! ## The events of a session -/

section

variable (sourced : session.desk.Sourced timeToLive record) (extends_ : later.Extends record)
  {event : SessionEvent}
  (asked : ∀ waiter text, session.Wants event waiter text → record.wanted waiter text)

include sourced extends_ asked

theorem sourced_hover {number : Nat} {arguments : Json}
    (hovers : event = .call number .hover arguments) :
    (session.step event).1.desk.Sourced timeToLive later ∧
      ∀ act ∈ (session.step event).2, act.Sourced session.showMetrics record := by
  subst hovers
  rcases session.step_call number .hover arguments with ⟨fault, -, result⟩ | ⟨_, performed, result⟩
  · rw [result]
    exact sourced_refusal (sourced.mono extends_) number fault
  · obtain ⟨input, accepted, rest⟩ := bind_eq_ok performed
    obtain ⟨document, found, rest⟩ := bind_eq_ok rest
    obtain rfl := Except.ok.inj rest
    rw [result]
    refine session.afterAlarm.sourced_atDesk (sourced.step session.timeline
      (.hover ⟨number, input.document.uri⟩ input.document.uri document.text input.position)
      ?_ (by simp) extends_ (by simp))
    intro waiter text wants
    cases wants with
    | hover caller uri located =>
        exact asked _ _ (.hover number accepted (require_eq_ok_iff.mp found) located)

theorem sourced_selection {number : Nat} {arguments : Json}
    (selects : event = .call number .analyzeSelection arguments) :
    (session.step event).1.desk.Sourced timeToLive later ∧
      ∀ act ∈ (session.step event).2, act.Sourced session.showMetrics record := by
  subst selects
  rcases session.step_call number .analyzeSelection arguments with
    ⟨fault, -, result⟩ | ⟨_, performed, result⟩
  · rw [result]
    exact sourced_refusal (sourced.mono extends_) number fault
  · obtain ⟨input, accepted, rest⟩ := bind_eq_ok performed
    obtain ⟨document, found, rest⟩ := bind_eq_ok rest
    split at rest
    · cases rest
    · next range selected =>
      obtain rfl := Except.ok.inj rest
      rw [result]
      refine session.sourced_atDesk (sourced.step session.timeline
        (.analyzeSelection ⟨number, input.document.uri⟩ document.text range)
        ?_ (by simp) extends_ (by simp))
      intro waiter text wants
      cases wants with
      | selection caller text range =>
          exact asked _ _ (.selection number accepted (require_eq_ok_iff.mp found) selected)

/-- Whatever happens to a session, what it tells goes back to what has happened before, and what its
desk keeps then goes back to what has happened by then. -/
theorem sourced_step (replied : ∀ code reply verdict, event = .codeReply code reply →
      session.service.verdictOf reply = .ok verdict →
      later.returned code verdict session.timeline.now) :
    (session.step event).1.desk.Sourced timeToLive later ∧
      ∀ act ∈ (session.step event).2, act.Sourced session.showMetrics record := by
  have kept := sourced.mono extends_
  have silent : ∀ act ∈ ([] : List SessionAct), act.Sourced session.showMetrics record := by simp
  have tells {act : SessionAct} (told : act.Sourced session.showMetrics record) :
      ∀ other ∈ [act], other.Sourced session.showMetrics record :=
    List.forall_mem_singleton.mpr told
  generalize result : session.step event = change
  have outcome := session.outcome event
  rw [result] at outcome
  cases outcome with
  | hovered =>
      rw [← result]
      exact sourced_hover sourced extends_ asked rfl
  | selected =>
      rw [← result]
      exact sourced_selection sourced extends_ asked rfl
  | refused => exact ⟨kept, tells trivial⟩
  | opened => exact ⟨kept, tells trivial⟩
  | updated =>
      refine ⟨?_, tells trivial⟩
      rw [(rearms_noteChange _ _).kept]
      exact kept
  | closed =>
      exact ⟨⟨kept.lifetime, kept.stored, kept.requests, kept.settling⟩, tells trivial⟩
  | toggled =>
      exact ⟨sourced_paint kept (session.canvas.cache_setEnabled _ _ _), tells trivial⟩
  | listed => exact ⟨kept, tells trivial⟩
  | reported => exact ⟨kept.lookUpAll _ _, tells trivial⟩
  | unreported => exact ⟨kept.lookUpAll _ _, tells trivial⟩
  | asked => exact ⟨kept, tells trivial⟩
  | probeDropped => exact ⟨kept, tells trivial⟩
  | withdrawn =>
      exact session.sourced_atDesk (sourced.step session.timeline (.withdraw _)
        (fun _ _ wants => nomatch wants) (by simp) extends_ (by simp))
  | woken =>
      exact session.sourced_atDesk (sourced.step session.timeline (.ring _)
        (fun _ _ wants => nomatch wants) (by simp) extends_ (by simp))
  | drawn => exact ⟨sourced_paint kept (session.canvas.cache_ring _ _ _), silent⟩
  | received code reply =>
      exact ⟨kept.receive fun verdict said => replied code reply verdict rfl said, silent⟩
  | handedOn =>
      exact session.sourced_atDesk (sourced.step session.timeline (.handOn _)
        (fun _ _ wants => nomatch wants) (by simp) extends_ (by simp))
  | heard => exact ⟨kept, tells trivial⟩
  | ignored => exact ⟨kept, silent⟩
  | waited => exact ⟨kept, silent⟩
  | elsewhere => exact ⟨kept, silent⟩

end

/-! ## Markers -/

end Session

theorem Board.mem_of_mem_cleared {uris : List Uri} {board : Board} {marker : Marker}
    (shown : marker ∈
      ((uris.map fun uri => (⟨uri, []⟩ : Redraw)).foldl redraw board).markersOf uri) :
    marker ∈ board.markersOf uri := by
  induction uris generalizing board with
  | nil => exact shown
  | cons first rest ih =>
      have there := ih shown
      rw [markersOf_redraw] at there
      split at there
      · exact absurd there List.not_mem_nil
      · exact there

namespace Session

variable {marker : Marker} {event : SessionEvent}

/-- The markers that a pass draws now over the current text of a document. -/
def Draws (session : Session) (uri : Uri) (marker : Marker) : Prop :=
  ∃ document, Keyed.get? session.documents uri = some document ∧
    marker ∈ freshMarkers session.timeline.now document.text session.desk.cache

/-- After a pass the markers are those that were shown before, and for its document those that it
draws. -/
theorem shown_of_pass {annotator : Annotator} {drawn : Uri}
    (shown : marker ∈ (session.paint ((Canvas.mk annotator session.desk.cache).pass
      (some session.timeline.now) session.documents drawn)).board.markersOf uri) :
    marker ∈ session.board.markersOf uri ∨ drawn = uri ∧ session.Draws uri marker := by
  cases on : annotator.enabled with
  | false =>
      rw [board_paint, Canvas.pass, if_neg (by simp [on])] at shown
      exact .inl shown
  | true =>
      cases isOpen : Keyed.get? session.documents drawn with
      | none =>
          rw [board_paint, Canvas.pass, if_pos on, isOpen] at shown
          exact .inl shown
      | some document =>
          by_cases each : EachWritable document.text
          · rw [board_paint, Canvas.pass_of_open _ _ on isOpen each, List.foldl_cons,
              List.foldl_nil, Board.markersOf_redraw] at shown
            split at shown
            · next same =>
              subst same
              exact .inr ⟨rfl, document, isOpen, shown⟩
            · exact .inl shown
          · rw [board_paint, Canvas.pass_of_unwritable _ _ isOpen each, List.foldl_nil] at shown
            exact .inl shown

theorem shown_of_atDesk (session : Session) {change : Desk Caller × List (DeskAct Caller)}
    (shown : marker ∈ (session.atDesk change).1.board.markersOf uri) :
    marker ∈ session.board.markersOf uri := by
  rw [(session.rearms_atDesk change).kept] at shown
  exact shown

/-- A marker that is shown was shown before, unless a pass over its document draws it. -/
theorem shown_before_or_drawn
    (shown : marker ∈ (session.step event).1.board.markersOf uri) :
    marker ∈ session.board.markersOf uri ∨ Passes session event uri ∧ session.Draws uri marker := by
  generalize result : session.step event = change at shown
  have outcome := session.outcome event
  rw [result] at outcome
  cases outcome with
  | refused => exact .inl shown
  | opened => exact .inl shown
  | updated =>
      rw [(rearms_noteChange _ _).kept] at shown
      exact .inl shown
  | closed =>
      have there : marker ∈ (session.board.redraw ⟨_, []⟩).markersOf uri := shown
      rw [Board.markersOf_redraw] at there
      split at there
      · exact absurd there List.not_mem_nil
      · exact .inl there
  | hovered => exact .inl (session.afterAlarm.shown_of_atDesk shown)
  | selected => exact .inl (session.shown_of_atDesk shown)
  | toggled number arguments =>
      cases on : session.annotator.enabled with
      | true =>
          rw [on, Bool.not_true, Canvas.setEnabled_false on] at shown
          exact .inl (Board.mem_of_mem_cleared shown)
      | false =>
          rw [on, Bool.not_false] at shown
          cases active : session.annotator.active with
          | none =>
              rw [Canvas.setEnabled_true_of_none on active] at shown
              exact .inl shown
          | some drawn =>
              rw [Canvas.setEnabled_true_of_some on active] at shown
              rcases shown_of_pass shown with before | ⟨rfl, draws⟩
              · exact .inl before
              · exact .inr ⟨.enabling on active, draws⟩
  | listed => exact .inl shown
  | reported => exact .inl shown
  | unreported => exact .inl shown
  | asked => exact .inl shown
  | probeDropped => exact .inl shown
  | withdrawn => exact .inl (session.shown_of_atDesk shown)
  | woken => exact .inl (session.shown_of_atDesk shown)
  | drawn other =>
      rename_i alarm
      cases due : session.annotator.documentOf? alarm with
      | none =>
          rw [Canvas.ring_of_none due] at shown
          exact .inl shown
      | some drawn =>
          rw [Canvas.ring_of_some due] at shown
          rcases shown_of_pass shown with before | ⟨rfl, draws⟩
          · exact .inl before
          · exact .inr ⟨.alarm other due, draws⟩
  | received => exact .inl shown
  | handedOn => exact .inl (session.shown_of_atDesk shown)
  | heard => exact .inl shown
  | ignored => exact .inl shown
  | waited => exact .inl shown
  | elsewhere => exact .inl shown

/-! ## What tallies and lists of markers tell -/

/-- A tally counts the verdicts that may be read for the functions of a document, and a list of
markers holds those that are shown. -/
def Tells (session : Session) : SessionAct → Prop
  | .finish _ (.ok (.report uri tally)) =>
    ∃ document, Keyed.get? session.documents uri = some document ∧
      tally = Tally.ofVerdicts ((locateAll document.text).map fun span =>
        session.desk.cache.read? session.timeline.now span.text)
  | .finish _ (.ok (.markers uri _ markers)) => markers = session.board.markersOf uri
  | _ => True

theorem tells_of_atDesk (session other : Session) {change : Desk Caller × List (DeskAct Caller)} :
    ∀ act ∈ (other.atDesk change).2, session.Tells act := by
  intro act listed
  rcases mem_carryOut listed with ⟨code, rfl⟩ | ⟨caller, finding, -, rfl⟩
  · trivial
  · match finding with
    | .error fault => trivial
    | .ok (.function found) => trivial
    | .ok (.verdict verdict) => trivial

theorem tells_of_step (session : Session) (event : SessionEvent) :
    ∀ act ∈ (session.step event).2, session.Tells act := by
  have silent : ∀ act ∈ ([] : List SessionAct), session.Tells act := by simp
  have only {act : SessionAct} (told : session.Tells act) : ∀ other ∈ [act], session.Tells other :=
    List.forall_mem_singleton.mpr told
  generalize result : session.step event = change
  have outcome := session.outcome event
  rw [result] at outcome
  cases outcome with
  | reported number arguments isOpen tallied =>
      exact only ⟨_, isOpen, Tally.eq_of_ofText_eq_ok tallied⟩
  | unreported => exact only trivial
  | listed => exact only rfl
  | refused => exact only trivial
  | opened => exact only trivial
  | updated => exact only trivial
  | closed => exact only trivial
  | hovered => exact session.tells_of_atDesk session.afterAlarm
  | selected => exact session.tells_of_atDesk session
  | toggled => exact only trivial
  | asked => exact only trivial
  | probeDropped => exact only trivial
  | withdrawn => exact session.tells_of_atDesk session
  | woken => exact session.tells_of_atDesk session
  | drawn => exact silent
  | received => exact silent
  | handedOn => exact session.tells_of_atDesk session
  | heard => exact only trivial
  | ignored => exact silent
  | waited => exact silent
  | elsewhere => exact silent

end Session

end CodeComplexity
