import CodeComplexity.Proofs.Course
import CodeComplexity.Proofs.Marking.Alarms
import CodeComplexity.Session.Course

/-!
# What comes of an event in a session

Everything that a session does is done in one of a few ways: a call is refused and leaves the
session as it was, a tool does its work on an open document, the desk does something and the session
carries it out, or the annotator draws.  `Session.Outcome` lists them, with what each one leaves;
properties of sessions are proved from this list and not from the tools.
-/

namespace CodeComplexity

open Source

namespace Session

variable {session : Session}

/-- What comes of an event in a session. -/
inductive Outcome (session : Session) : SessionEvent → Session × List SessionAct → Prop where
  | refused {number : Nat} {tool : Tool} {arguments : Json} {fault : Fault}
      (refusal : session.perform number arguments tool = .error fault) :
      Outcome session (.call number tool arguments) (session, [.finish number (.error fault)])
  | opened (number : Nat) (arguments : Json) (uri : Uri) (text : Text.LooseText) :
      Outcome session (.call number .openDocument arguments)
        ({ session with
            documents := session.documents.openWith uri text
            annotator := session.annotator.activate session.timeline uri }.afterAlarm,
          [.finish number (.ok (.opened uri 1
            (session.annotator.activate session.timeline uri).enabled))])
  | updated (number : Nat) (arguments : Json) {uri : Uri} {document : Document}
      (isOpen : Keyed.get? session.documents uri = some document) (text : Text.LooseText)
      (pending : Bool) :
      Outcome session (.call number .updateDocument arguments)
        ({ session with
            documents :=
              Keyed.set uri (Documents.revised document text) session.documents }.noteChange uri,
          [.finish number (.ok (.updated uri (document.version + 1) pending))])
  | closed (number : Nat) (arguments : Json) {uri : Uri} {document : Document}
      (isOpen : Keyed.get? session.documents uri = some document) :
      Outcome session (.call number .closeDocument arguments)
        ({ session with
            annotator := (session.annotator.close uri).1
            board := session.board.redraw ⟨uri, []⟩
            desk := session.desk.forget uri
            documents := session.documents.close uri },
          [.finish number (.ok (.closed uri))])
  | hovered (number : Nat) (arguments : Json) {uri : Uri} {document : Document}
      (isOpen : Keyed.get? session.documents uri = some document) (position : Position) :
      Outcome session (.call number .hover arguments)
        (session.afterAlarm.atDesk
          (session.desk.hover session.timeline ⟨number, uri⟩ uri document.text position))
  | selected (number : Nat) (arguments : Json) {uri : Uri} {document : Document}
      (isOpen : Keyed.get? session.documents uri = some document) (range : Option TextRange) :
      Outcome session (.call number .analyzeSelection arguments)
        (session.atDesk
          (session.desk.analyzeSelection session.timeline.now ⟨number, uri⟩ document.text range))
  | toggled (number : Nat) (arguments : Json) :
      Outcome session (.call number .toggleAnnotations arguments)
        (session.paint (session.canvas.setEnabled (some session.timeline.now) session.documents
            (!session.annotator.enabled)),
          [.finish number (.ok (.toggled (!session.annotator.enabled)))])
  | listed (number : Nat) (arguments : Json) {uri : Uri} {document : Document}
      (isOpen : Keyed.get? session.documents uri = some document) :
      Outcome session (.call number .getAnnotations arguments)
        (session, [.finish number (.ok (.markers uri session.annotator.enabled
          (session.board.markersOf uri)))])
  | reported (number : Nat) (arguments : Json) {uri : Uri} {document : Document} {tally : Tally}
      (isOpen : Keyed.get? session.documents uri = some document)
      (tallied : (Tally.ofText (some session.timeline.now) document.text
        session.desk.cache).1 = .ok tally) :
      Outcome session (.call number .complexityReport arguments)
        ({ session with
            desk := { session.desk with
              cache := (lookUpAll (some session.timeline.now) (locateAll document.text)
                session.desk.cache).2 } },
          [.finish number (.ok (.report uri tally))])
  /-- A function of the document cannot be looked up. -/
  | unreported (number : Nat) (arguments : Json) {uri : Uri} {document : Document}
      {fault : LookFault} (isOpen : Keyed.get? session.documents uri = some document)
      (fails : (Tally.ofText (some session.timeline.now) document.text
        session.desk.cache).1 = .error fault) :
      Outcome session (.call number .complexityReport arguments)
        ({ session with
            desk := { session.desk with
              cache := (lookUpAll (some session.timeline.now) (locateAll document.text)
                session.desk.cache).2 } },
          [.finish number (.error (.ofLook fault))])
  | asked (number : Nat) (arguments : Json) :
      Outcome session (.call number .checkHealth arguments) (session.checkHealth number)
  | probeDropped {number : Nat} (waits : number ∈ session.probing) :
      Outcome session (.cancel number)
        ({ session with probing := session.probing.erase number },
          [.finish number (.error .cancelled)])
  | withdrawn {number : Nat} (elsewhere : number ∉ session.probing) :
      Outcome session (.cancel number)
        (session.atDesk (session.desk.withdraw fun caller => caller.call = number))
  | woken {alarm : Alarm} (owned : session.desk.owns alarm = true) :
      Outcome session (.ring alarm) (session.atDesk (session.desk.ring session.timeline.now alarm))
  | drawn {alarm : Alarm} (other : session.desk.owns alarm = false) :
      Outcome session (.ring alarm)
        (session.paint (session.canvas.ring (some session.timeline.now) session.documents alarm),
          [])
  | received (code : String) (reply : Reply) :
      Outcome session (.codeReply code reply) (session.codeReply code reply, [])
  | handedOn (code : String) :
      Outcome session (.handOn code) (session.atDesk (session.desk.handOn code))
  | heard {number : Nat} (waits : number ∈ session.probing) (reply : Reply) :
      Outcome session (.healthReply (some number) reply)
        ({ session with probing := session.probing.erase number },
          [.finish number (.ok (.health (session.service.isHealthy reply)
            session.service.endpoint))])
  | ignored (call : Option Nat) (reply : Reply) :
      Outcome session (.healthReply call reply) (session, [])
  | waited (moment : Int) : Outcome session (.wait moment) (session.movedTo moment, [])
  | elsewhere : Outcome session .alarmElsewhere (session.afterAlarm, [])

theorem require_eq_ok_iff {uri : Uri} {document : Document} :
    session.require uri = .ok document ↔ Keyed.get? session.documents uri = some document := by
  rw [require]
  split
  · next found => simp [found]
  · next found => simp [found]

section

variable {ε α β : Type}

theorem bind_eq_ok {first : Except ε α} {next : α → Except ε β} {result : β}
    (done : (first >>= next) = .ok result) :
    ∃ value, first = .ok value ∧ next value = .ok result := by
  cases first with
  | error fault => cases done
  | ok value => exact ⟨value, rfl, done⟩

theorem map_eq_ok {change : α → β} {first : Except ε α} {result : β}
    (done : first.map change = .ok result) :
    ∃ value, first = .ok value ∧ change value = result := by
  cases first with
  | error fault => cases done
  | ok value => exact ⟨value, rfl, Except.ok.inj done⟩

end

/-- What a call comes to, if the tool does its work. -/
theorem outcome_of_perform {number : Nat} {tool : Tool} {arguments : Json}
    {result : Session × List SessionAct}
    (done : session.perform number arguments tool = .ok result) :
    Outcome session (.call number tool arguments) result := by
  cases tool with
  | openDocument =>
      obtain ⟨_, performed, rfl⟩ := map_eq_ok done
      obtain ⟨input, _, rest⟩ := bind_eq_ok performed
      obtain rfl := Except.ok.inj rest
      exact .opened number arguments input.uri input.text
  | updateDocument =>
      obtain ⟨_, performed, rfl⟩ := map_eq_ok done
      obtain ⟨input, _, rest⟩ := bind_eq_ok performed
      obtain ⟨document, found, rest⟩ := bind_eq_ok rest
      obtain rfl := Except.ok.inj rest
      exact .updated number arguments (require_eq_ok_iff.mp found) input.text _
  | closeDocument =>
      obtain ⟨_, performed, rfl⟩ := map_eq_ok done
      obtain ⟨input, _, rest⟩ := bind_eq_ok performed
      obtain ⟨document, found, rest⟩ := bind_eq_ok rest
      obtain rfl := Except.ok.inj rest
      exact .closed number arguments (require_eq_ok_iff.mp found)
  | hover =>
      obtain ⟨input, _, rest⟩ := bind_eq_ok done
      obtain ⟨document, found, rest⟩ := bind_eq_ok rest
      obtain rfl := Except.ok.inj rest
      exact .hovered number arguments (require_eq_ok_iff.mp found) input.position
  | analyzeSelection =>
      obtain ⟨input, _, rest⟩ := bind_eq_ok done
      obtain ⟨document, found, rest⟩ := bind_eq_ok rest
      split at rest
      · cases rest
      · next range _ =>
        obtain rfl := Except.ok.inj rest
        exact .selected number arguments (require_eq_ok_iff.mp found) range
  | toggleAnnotations =>
      obtain rfl := Except.ok.inj done
      exact .toggled number arguments
  | getAnnotations =>
      obtain ⟨_, performed, rfl⟩ := map_eq_ok done
      obtain ⟨input, _, rest⟩ := bind_eq_ok performed
      obtain ⟨document, found, rest⟩ := bind_eq_ok rest
      obtain rfl := Except.ok.inj rest
      exact .listed number arguments (require_eq_ok_iff.mp found)
  | complexityReport =>
      obtain ⟨_, performed, rfl⟩ := map_eq_ok done
      obtain ⟨input, _, rest⟩ := bind_eq_ok performed
      obtain ⟨document, found, rest⟩ := bind_eq_ok rest
      obtain rfl := Except.ok.inj rest
      have isOpen := require_eq_ok_iff.mp found
      change Outcome session _ (_, [.finish number (((Tally.ofText (some session.timeline.now)
        document.text session.desk.cache).1.mapError Fault.ofLook).map (.report input.uri))])
      cases tallied : (Tally.ofText (some session.timeline.now) document.text
          session.desk.cache).1 with
      | ok tally =>
          exact .reported number arguments isOpen tallied
      | error fault =>
          exact .unreported number arguments isOpen tallied
  | checkHealth =>
      obtain rfl := Except.ok.inj done
      exact .asked number arguments

theorem outcome (session : Session) (event : SessionEvent) :
    Outcome session event (session.step event) := by
  cases event with
  | call number tool arguments =>
      change Outcome session _ (session.callTool number tool arguments)
      rw [callTool]
      split
      · next done => exact outcome_of_perform done
      · next refusal => exact .refused refusal
  | cancel number =>
      change Outcome session _ (session.cancel number)
      rw [cancel]
      split
      · next waits => exact .probeDropped (List.contains_iff_mem.mp waits)
      · next elsewhere => exact .withdrawn fun waits => elsewhere (List.contains_iff_mem.mpr waits)
  | ring alarm =>
      change Outcome session _ (session.ring alarm)
      rw [ring]
      split
      · next owned => exact .woken owned
      · next other => exact .drawn (Bool.eq_false_iff.mpr other)
  | codeReply code reply => exact .received code reply
  | handOn code => exact .handedOn code
  | healthReply call reply =>
      change Outcome session _ (session.healthReply call reply)
      simp only [healthReply]
      split
      · exact .ignored none reply
      · next number =>
        split
        · next waits => exact .heard (List.contains_iff_mem.mp waits) reply
        · exact .ignored (some number) reply
  | wait moment => exact .waited moment
  | alarmElsewhere => exact .elsewhere

/-! ## What the session adds to the work of the desk -/

/-- A session that has at most set the alarm of the document in view anew. -/
structure Rearms (before after : Session) : Prop where
  kept : after =
    { before with
      timeline := { before.timeline with tickets := after.timeline.tickets }
      annotator := { before.annotator with alarms := after.annotator.alarms } }
  tickets : before.timeline.tickets ≤ after.timeline.tickets
  /-- No alarm is dropped. -/
  pending (uri : Uri) :
    before.annotator.isPending uri = true → after.annotator.isPending uri = true
  /-- Only the document in view is concerned, and only while annotations are enabled. -/
  shown (uri : Uri) : after.annotator.isPending uri = true →
    before.annotator.isPending uri = true ∨
      before.annotator.enabled = true ∧ before.annotator.active = some uri

theorem Rearms.refl (session : Session) : session.Rearms session :=
  ⟨rfl, Nat.le_refl _, fun _ set => set, fun _ set => .inl set⟩

theorem Rearms.trans {first second third : Session} (before : first.Rearms second)
    (after : second.Rearms third) : first.Rearms third := by
  constructor
  · rw [after.kept, before.kept]
  · exact Nat.le_trans before.tickets after.tickets
  · exact fun uri set => after.pending uri (before.pending uri set)
  · intro uri set
    rcases after.shown uri set with earlier | inView
    · exact before.shown uri earlier
    · right
      rw [before.kept] at inView
      exact inView

theorem rearms_noteChange (session : Session) (uri : Uri) :
    session.Rearms (session.noteChange uri) := by
  rw [noteChange, Annotator.change]
  split
  · next inView =>
    simp only [Bool.and_eq_true, beq_iff_eq] at inView
    refine ⟨rfl, Nat.le_succ _, ?_, ?_⟩
    · intro other set
      exact (Annotator.isPending_arm _ _ _ _).trans (by simp [set])
    · intro other set
      have either := (Annotator.isPending_arm _ _ _ _).symm.trans set
      simp only [Bool.or_eq_true, decide_eq_true_eq] at either
      rcases either with rfl | earlier
      · exact .inr inView
      · exact .inl earlier
  · exact ⟨rfl, Nat.le_succ _, fun _ set => set, fun _ set => .inl set⟩

theorem rearms_finish (session : Session) (caller : Caller) (finding : Except Fault Finding) :
    session.Rearms (session.finish caller finding).1 := by
  simp only [finish]
  split
  · exact session.rearms_noteChange _
  · exact .refl session
  · exact .refl session

theorem rearms_carryOut (session : Session) (acts : List (DeskAct Caller)) :
    session.Rearms (session.carryOut acts).1 := by
  induction acts generalizing session with
  | nil => exact .refl session
  | cons act rest ih =>
      cases act with
      | ask code => exact ih session
      | give caller finding => exact (session.rearms_finish caller finding).trans (ih _)

/-- Whatever the desk has done, the session takes it over and rearms at most. -/
theorem rearms_atDesk (session : Session) (change : Desk Caller × List (DeskAct Caller)) :
    { session with desk := change.1 }.Rearms (session.atDesk change).1 :=
  rearms_carryOut _ _

theorem desk_atDesk (session : Session) (change : Desk Caller × List (DeskAct Caller)) :
    (session.atDesk change).1.desk = change.1 := by
  rw [(session.rearms_atDesk change).kept]

/-! ## Sessions in the course of time -/

/-- What a session starts with: nothing is open, nothing is waited for and nothing is shown. -/
theorem start?_eq_some {settings : Settings} {first : Session} {acts : List SessionAct}
    (started : start? settings = some (first, acts)) :
    ∃ hoverDelay timeToLive, first =
      ⟨settings, .start, [], .start hoverDelay (.empty timeToLive settings.cache.capacity),
        .start drawDelay settings.annotations.enabled, [], []⟩ := by
  rw [start?] at started
  split at started
  · next seconds delay _ _ =>
    obtain ⟨rfl, -⟩ := Prod.mk.inj (Option.some.inj started)
    exact ⟨delay, seconds * 1000000, rfl⟩
  · simp at started

/-- A session in the course of time: everything may happen at any moment. -/
def process : Process Session SessionEvent SessionAct where
  may := fun _ _ => True
  step := step

/-- A session with the default settings in which nothing has happened. -/
def fresh : Session :=
  ⟨⟨.default, .default, .default, .default⟩, .start, [],
    .start 300000 (.empty 300000000 CacheSettings.default.capacity), .start drawDelay true, [], []⟩

def oneFunction : Json :=
  .obj [("uri", .str "u"), ("text", .str "function f(a) \x7b\n\x7d")]

end Session

abbrev SessionMoment :=
  Moment Session SessionEvent SessionAct

end CodeComplexity
