import CodeComplexity.Proofs.Classifier.Reply
import CodeComplexity.Proofs.Session.Endings
import CodeComplexity.Proofs.Session.Selections

/-!
# Calls that are turned down

A call is turned down because of what it was given, because its document is not open, or because
what it selects is blank.  No reply of the classifier comes to such a failure, so a call that ends
with one ends at once; nothing is sent on its behalf, and the session goes on as if it had not been
called.
-/

namespace CodeComplexity

open Check Source Text

/-- A fault that someone is given for an outcome is that of the outcome. -/
theorem Purpose.eq_error_of_finding {purpose : Purpose} {outcome : Except Fault Verdict}
    {fault : Fault} (given : purpose.finding outcome = .error fault) : outcome = .error fault := by
  cases outcome with
  | ok verdict => cases purpose <;> cases given
  | error other =>
      cases purpose with
      | verdict => exact congrArg _ (Except.error.inj given)
      | function span => exact congrArg _ (Except.error.inj given)
      | hover span =>
          cases other with
          | failure failure => cases given
          | _ => exact congrArg _ (Except.error.inj given)

namespace Session

variable {session first last : Session} {event : SessionEvent} {number : Nat} {failure : Failure}
  {timeToLive : Int} {past rest : List SessionMoment} {moment : SessionMoment}

theorem resultOf_eq_error {caller : Caller} {finding : Except Fault Finding} {fault : Fault}
    (told : session.resultOf caller finding = .error fault) : finding = .error fault := by
  match finding with
  | .error other => exact congrArg _ (Except.error.inj told)
  | .ok (.function found) => cases told
  | .ok (.verdict verdict) => cases told

/-- A blank selection is all that the desk turns down. -/
theorem blank_of_gives (remembers : Remembers timeToLive past session)
    {atDesk : DeskEvent Caller} {caller : Caller}
    (gives : session.desk.Gives session.timeline.now atDesk caller (.error (.failure failure)))
    (rejects : failure.report.code ∈ FailureCode.rejections) :
    failure = .emptySelection ∧ ∃ text range, atDesk = .analyzeSelection caller text range ∧
      allBlank (extractText text range).points = true := by
  generalize same : Except.error (Fault.failure failure) = finding at gives
  cases gives with
  | nowhere => cases same
  | hoveredNowhere => cases same
  | unwritten => cases same
  | superseded => cases same
  | withdrawn => cases same
  | blank _ empty =>
      obtain rfl := Fault.failure.inj (Except.error.inj same)
      exact ⟨rfl, _, _, rfl, empty⟩
  | known concerns knows =>
      -- What is known is a verdict of the cache or what a reply came to: neither is a rejection.
      have failed := Purpose.eq_error_of_finding same.symm
      subst failed
      generalize outcome : Except.error (Fault.failure failure) = noted at knows
      cases knows with
      | read => cases outcome
      | replied listed noted =>
          subst outcome
          obtain ⟨_, _, _, reply, -, -, replied⟩ := remembers.notes _ listed _ noted
          exact absurd rejects (Service.code_of_verdictOf replied)

theorem accept_eq_ok {α : Type} {kind : InputKind} {checked : Checked α} {input : α}
    (accepted : kind.accept checked = .ok input) : checked = .valid input := by
  cases checked with
  | valid value => exact congrArg _ (Except.ok.inj accepted)
  | refused issues => cases accepted

theorem step_of_blank {arguments : Json} {input : SelectionInput} {document : Document}
    {range : Option TextRange}
    (accepted : InputKind.selection.accept (SelectionInput.ofMembers arguments) = .ok input)
    (isOpen : Keyed.get? session.documents input.document.uri = some document)
    (selects : input.bounds.range.titled "TextRange" = .ok range)
    (empty : allBlank (extractText document.text range).points = true) :
    session.step (.call number .analyzeSelection arguments) =
      session.refusal number (.failure .emptySelection) := by
  rw [step_of_accepted (accept_eq_ok accepted) isOpen, Checked.titled_eq_ok.mp selects]
  dsimp only
  rw [Desk.analyzeSelection, if_pos empty]
  rfl

theorem step_of_rejection (remembers : Remembers timeToLive past session)
    (ends : .finish number (.error (.failure failure)) ∈ (session.step event).2)
    (rejects : failure.report.code ∈ FailureCode.rejections) :
    (∃ tool arguments, event = .call number tool arguments) ∧
      session.step event = session.refusal number (.failure failure) := by
  have ended := session.ends_of_step ends
  generalize told : Except.error (Fault.failure failure) = result at ended
  cases ended with
  | aside aside =>
      cases aside with
      | refused refusal =>
          obtain rfl := Except.error.inj told
          refine ⟨⟨_, _, rfl⟩, ?_⟩
          change session.callTool _ _ _ = _
          rw [callTool, refusal]
          rfl
      | done => cases told
      | unreported _ _ fault =>
          cases fault with
          | unencodable => cases told
          | clockless => cases told
      | dropped => cases told
      | heard => cases told
  | given brings gives =>
      obtain rfl := resultOf_eq_error told.symm
      obtain ⟨rfl, text, range, rfl, empty⟩ := blank_of_gives remembers gives rejects
      cases brings with
      | selection number accepted isOpen selects =>
          exact ⟨⟨_, _, rfl⟩, step_of_blank accepted isOpen selects empty⟩

/-- A call that is turned down ends at once, sends nothing and changes nothing: without it the
session takes the same course. -/
theorem rejections_change_nothing {settings : Settings} {acts : List SessionAct}
    (started : start? settings = some (first, acts))
    (course : Course process first (past ++ moment :: rest) last)
    (ends : .finish number (.error (.failure failure)) ∈ moment.acts)
    (rejects : failure.report.code ∈ FailureCode.rejections) :
    (∃ tool arguments, moment.event = .call number tool arguments) ∧
      moment.acts = [.finish number (.error (.failure failure))] ∧
      moment.after = moment.state ∧ Course process first (past ++ rest) last := by
  obtain ⟨before, -, happened, onward⟩ := course.split
  have acts := acts_eq happened
  have after := after_eq happened
  rw [acts] at ends
  obtain ⟨calls, step⟩ := step_of_rejection (remembers_of_course started before) ends rejects
  rw [step] at acts after
  rw [after] at onward
  exact ⟨calls, acts, after, before.append onward⟩

def blankDocument : Json :=
  .obj [("uri", .str "u"), ("text", .str " \n")]

/-- The law at work: the analysis of a document without code is turned down, and the document can be
closed as if it had not been tried. -/
theorem rejections_change_nothing_blank :
    let opened := process.moment fresh (.call 0 .openDocument blankDocument)
    let selected := process.moment opened.after (.call 1 .analyzeSelection blankDocument)
    let closed := process.moment selected.after (.call 2 .closeDocument blankDocument)
    selected.acts = [.finish 1 (.error (.failure .emptySelection))] ∧
      selected.after = selected.state ∧
      Course process fresh ([opened] ++ [closed]) closed.after := by
  intro opened selected closed
  have course : Course process fresh ([opened] ++ selected :: [closed]) closed.after :=
    Process.course_of_allows (show process.Allows fresh [.call 0 .openDocument blankDocument,
      .call 1 .analyzeSelection blankDocument, .call 2 .closeDocument blankDocument] from
      ⟨trivial, trivial, trivial, trivial⟩)
  have ends : .finish 1 (.error (.failure .emptySelection)) ∈ selected.acts :=
    List.mem_singleton_self _
  obtain ⟨-, acts, after, without⟩ := rejections_change_nothing
    (show start? fresh.settings = some (fresh, [.probe none]) from rfl) course ends (by decide)
  exact ⟨acts, after, without⟩

end Session

end CodeComplexity
