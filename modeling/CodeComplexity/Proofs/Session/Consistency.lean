import CodeComplexity.Proofs.Analysis.Settling
import CodeComplexity.Proofs.Session.Markers

/-!
# Parts of a session that agree

A session keeps what it knows about documents in five places: the open documents, the document in
view, the alarms and drawn documents of the annotator, the board, and the numbers of the desk.  Each
of them changes on its own, also by calls that come to an end after their document was closed.  They
agree at every moment nevertheless: whatever is known is known about open documents, and nothing is
shown or waited for while annotations are disabled.
-/

namespace CodeComplexity

/-! ## Boards and drawn documents -/

namespace Board

variable {board : Board} {uri : Uri}

theorem has_redraw (board : Board) (change : Redraw) (uri : Uri) :
    Keyed.has (board.redraw change) uri =
      if uri = change.uri then !change.markers.isEmpty else Keyed.has board uri := by
  rw [redraw]
  split
  · next empty =>
    rw [Keyed.has_erase]
    by_cases same : uri = change.uri <;> simp [same, empty]
  · next shown =>
    rw [Keyed.has_set]
    by_cases same : uri = change.uri <;> simp [same, shown]

theorem has_foldl_clear (uris : List Uri) (board : Board) (uri : Uri) :
    Keyed.has ((uris.map fun uri => (⟨uri, []⟩ : Redraw)).foldl redraw board) uri =
      (uri ∉ uris && Keyed.has board uri) := by
  induction uris generalizing board with
  | nil => simp
  | cons first rest ih =>
      rw [List.map_cons, List.foldl_cons, ih, has_redraw]
      by_cases same : uri = first <;> simp [same]

theorem markersOf_eq_nil (unlisted : Keyed.has board uri = false) : board.markersOf uri = [] := by
  have nothing : Keyed.get? board uri = none := by simpa [Keyed.has] using unlisted
  rw [markersOf, nothing]
  rfl

end Board

theorem mem_sortedTexts {texts : List Text.LooseText} {text : Text.LooseText} :
    text ∈ sortedTexts texts ↔ text ∈ texts :=
  List.mem_mergeSort

namespace Canvas

theorem mem_noteDrawn {drawn : List Uri} {uri other : Uri} :
    other ∈ noteDrawn drawn uri ↔ other = uri ∨ other ∈ drawn := by
  rw [noteDrawn]
  split
  · next listed =>
    have there := List.contains_iff_mem.mp listed
    constructor
    · exact .inr
    · rintro (rfl | listed)
      · exact there
      · exact listed
  · rw [List.mem_append, List.mem_singleton, or_comm]

theorem nodup_noteDrawn {drawn : List Uri} (nodup : drawn.Nodup) (uri : Uri) :
    (noteDrawn drawn uri).Nodup := by
  rw [noteDrawn]
  split
  · exact nodup
  · next unlisted =>
    have fresh : uri ∉ drawn := fun listed => unlisted (List.contains_iff_mem.mpr listed)
    rw [List.nodup_append]
    refine ⟨nodup, List.nodup_singleton uri, ?_⟩
    intro other listed added last same
    rw [List.mem_singleton.mp last] at same
    exact fresh (same ▸ listed)

end Canvas

namespace Session

variable {session first last : Session} {moments : List SessionMoment} {uri : Uri}

/-- The parts of a session agree about documents. -/
structure Consistent (session : Session) : Prop where
  /-- A document for which an alarm is set is open. -/
  pending : ∀ uri, session.annotator.isPending uri = true → Keyed.has session.documents uri = true
  /-- A document with markers on the board was drawn. -/
  marked : ∀ uri, Keyed.has session.board uri = true → uri ∈ session.annotator.drawn
  /-- A document that was drawn is open. -/
  drawn : ∀ uri ∈ session.annotator.drawn, Keyed.has session.documents uri = true
  /-- No document is listed twice as drawn. -/
  once : session.annotator.drawn.Nodup
  /-- A document with a number for its hovers is open. -/
  numbered : ∀ uri, Keyed.has session.desk.numbers uri = true →
    Keyed.has session.documents uri = true
  /-- While annotations are disabled no alarm is set and nothing is drawn. -/
  disabled : session.annotator.enabled = false →
    (∀ uri, session.annotator.isPending uri = false) ∧ session.annotator.drawn = []

theorem Consistent.unmarked (consistent : session.Consistent)
    (off : session.annotator.enabled = false) (uri : Uri) : session.board.markersOf uri = [] := by
  apply Board.markersOf_eq_nil
  rw [Bool.eq_false_iff]
  intro listed
  have drawn := consistent.marked uri listed
  rw [(consistent.disabled off).2] at drawn
  exact List.not_mem_nil drawn

/-- Only the parts that know about documents matter. -/
theorem Consistent.of_same {after : Session} (consistent : session.Consistent)
    (documents : after.documents = session.documents)
    (annotator : after.annotator = session.annotator) (board : after.board = session.board)
    (numbers : after.desk.numbers = session.desk.numbers) : after.Consistent := by
  constructor
  · rw [annotator, documents]
    exact consistent.pending
  · rw [annotator, board]
    exact consistent.marked
  · rw [annotator, documents]
    exact consistent.drawn
  · rw [annotator]
    exact consistent.once
  · rw [numbers, documents]
    exact consistent.numbered
  · rw [annotator]
    exact consistent.disabled

/-! ## Calls that end -/

theorem Rearms.consistent {before after : Session} (rearms : before.Rearms after)
    (shows : before.ShowsOpen) (consistent : before.Consistent) : after.Consistent := by
  have kept := rearms.kept
  constructor
  · intro uri set
    have isOpen : Keyed.has before.documents uri = true := by
      rcases rearms.shown uri set with earlier | ⟨-, active⟩
      · exact consistent.pending uri earlier
      · exact shows uri active
    rw [kept]
    exact isOpen
  · intro uri listed
    rw [kept] at listed ⊢
    exact consistent.marked uri listed
  · intro uri listed
    rw [kept] at listed ⊢
    exact consistent.drawn uri listed
  · rw [kept]
    exact consistent.once
  · intro uri given
    rw [kept] at given ⊢
    exact consistent.numbered uri given
  · intro off
    have wasOff : before.annotator.enabled = false := by
      rw [kept] at off
      exact off
    obtain ⟨unset, nothing⟩ := consistent.disabled wasOff
    constructor
    · intro uri
      rw [Bool.eq_false_iff]
      intro set
      rcases rearms.shown uri set with earlier | ⟨on, -⟩
      · rw [unset uri] at earlier
        cases earlier
      · rw [wasOff] at on
        cases on
    · rw [kept]
      exact nothing

/-- The desk may do anything that numbers only open documents. -/
theorem Consistent.withDesk (consistent : session.Consistent) {desk : Desk Caller}
    (numbered : ∀ uri, Keyed.has desk.numbers uri = true →
      Keyed.has session.documents uri = true) : { session with desk }.Consistent :=
  ⟨consistent.pending, consistent.marked, consistent.drawn, consistent.once, numbered,
    consistent.disabled⟩

theorem Consistent.atDesk (consistent : session.Consistent) (shows : session.ShowsOpen)
    {change : Desk Caller × List (DeskAct Caller)}
    (numbered : ∀ uri, Keyed.has change.1.numbers uri = true →
      Keyed.has session.documents uri = true) : (session.atDesk change).1.Consistent :=
  (session.rearms_atDesk change).consistent shows (consistent.withDesk numbered)

theorem Consistent.atDesk_of_calm (consistent : session.Consistent) (shows : session.ShowsOpen)
    {change : Desk Caller × List (DeskAct Caller)} (calm : session.desk.Calm change.1) :
    (session.atDesk change).1.Consistent := by
  refine consistent.atDesk shows ?_
  rw [calm.numbers]
  exact consistent.numbered

/-- A hover is about an open document, so that its number is, too. -/
theorem Consistent.hovered (consistent : session.Consistent) (shows : session.ShowsOpen)
    (number : Nat) {uri : Uri}
    (isOpen : Keyed.has session.documents uri = true) (text : Text.LooseText)
    (position : Source.Position) :
    (session.afterAlarm.atDesk
      (session.desk.hover session.timeline ⟨number, uri⟩ uri text position)).1.Consistent := by
  have later : session.afterAlarm.Consistent := consistent.of_same rfl rfl rfl rfl
  rcases session.desk.hover_begins_or_calm session.timeline ⟨number, uri⟩ uri text position with
    ⟨hover, begins⟩ | calm
  · refine later.atDesk shows ?_
    intro other given
    rw [begins.numbers, Keyed.has_set] at given
    simp only [Bool.or_eq_true, decide_eq_true_eq] at given
    rcases given with rfl | earlier
    · exact isOpen
    · exact consistent.numbered other earlier
  · exact later.atDesk_of_calm shows calm

/-! ## Documents -/

theorem Consistent.setDocument (consistent : session.Consistent) (uri : Uri)
    (document : Document) :
    { session with documents := Keyed.set uri document session.documents }.Consistent := by
  have stays (other : Uri) (isOpen : Keyed.has session.documents other = true) :
      Keyed.has (Keyed.set uri document session.documents) other = true := by
    rw [Keyed.has_set, isOpen, Bool.or_true]
  constructor
  · exact fun other set => stays other (consistent.pending other set)
  · exact consistent.marked
  · exact fun other listed => stays other (consistent.drawn other listed)
  · exact consistent.once
  · exact fun other given => stays other (consistent.numbered other given)
  · exact consistent.disabled

theorem Consistent.activate (consistent : session.Consistent)
    (isOpen : Keyed.has session.documents uri = true) :
    { session with
      annotator := session.annotator.activate session.timeline uri }.afterAlarm.Consistent := by
  have drawn : (session.annotator.activate session.timeline uri).drawn =
      session.annotator.drawn := by
    rw [Annotator.activate]
    split
    · rfl
    · rfl
  constructor
  · intro other set
    change (session.annotator.activate session.timeline uri).isPending other = true at set
    rw [Annotator.activate] at set
    split at set
    · rw [Annotator.isPending_arm] at set
      simp only [Bool.or_eq_true, decide_eq_true_eq] at set
      rcases set with rfl | earlier
      · exact isOpen
      · exact consistent.pending other earlier
    · exact consistent.pending other set
  · intro other listed
    exact drawn.symm ▸ consistent.marked other listed
  · intro other listed
    exact consistent.drawn other (drawn ▸ listed)
  · exact drawn.symm ▸ consistent.once
  · exact consistent.numbered
  · intro off
    have wasOff := (Annotator.enabled_activate _ session.timeline uri).symm.trans off
    refine ⟨?_, drawn.trans (consistent.disabled wasOff).2⟩
    intro other
    change (session.annotator.activate session.timeline uri).isPending other = false
    rw [Annotator.activate, if_neg (by simp [wasOff])]
    exact (consistent.disabled wasOff).1 other

theorem Consistent.disarm (consistent : session.Consistent) (uri : Uri) :
    { session with annotator := session.annotator.disarm uri }.Consistent := by
  constructor
  · intro other set
    change (session.annotator.disarm uri).isPending other = true at set
    rw [Annotator.isPending_disarm] at set
    simp only [ne_eq, Bool.and_eq_true, decide_eq_true_eq] at set
    exact consistent.pending other set.2
  · exact consistent.marked
  · exact consistent.drawn
  · exact consistent.once
  · exact consistent.numbered
  · intro off
    obtain ⟨unset, nothing⟩ := consistent.disabled off
    refine ⟨?_, nothing⟩
    intro other
    change (session.annotator.disarm uri).isPending other = false
    rw [Annotator.isPending_disarm, unset other, Bool.and_false]

theorem Consistent.closed (consistent : session.Consistent) (uri : Uri) :
    { session with
      annotator := (session.annotator.close uri).1
      board := session.board.redraw ⟨uri, []⟩
      desk := session.desk.forget uri
      documents := session.documents.close uri }.Consistent := by
  have stays {other : Uri} (different : other ≠ uri)
      (isOpen : Keyed.has session.documents other = true) :
      Keyed.has (session.documents.close uri) other = true := by
    rw [Documents.close, Keyed.has_erase, isOpen]
    simp [different]
  constructor
  · intro other set
    change (session.annotator.disarm uri).isPending other = true at set
    rw [Annotator.isPending_disarm] at set
    simp only [ne_eq, Bool.and_eq_true, decide_eq_true_eq] at set
    exact stays set.1 (consistent.pending other set.2)
  · intro other listed
    rw [Board.has_redraw] at listed
    split at listed
    · cases listed
    · next different =>
      exact (List.mem_erase_of_ne different).mpr (consistent.marked other listed)
  · intro other listed
    obtain ⟨different, there⟩ := (consistent.once.mem_erase_iff).mp listed
    exact stays different (consistent.drawn other there)
  · exact consistent.once.erase uri
  · intro other given
    change Keyed.has (Keyed.erase uri session.desk.numbers) other = true at given
    rw [Keyed.has_erase] at given
    simp only [ne_eq, Bool.and_eq_true, decide_eq_true_eq] at given
    exact stays given.1 (consistent.numbered other given.2)
  · intro off
    obtain ⟨unset, nothing⟩ := (consistent.disarm uri).disabled off
    refine ⟨unset, ?_⟩
    change session.annotator.drawn.erase uri = []
    exact (congrArg (List.erase · uri) nothing).trans (List.erase_nil uri)

/-! ## Passes -/

/-- Documents are drawn only if they are open and annotations are enabled. -/
theorem Consistent.paint_pass (consistent : session.Consistent) (clock : ClockReading) (uri : Uri) :
    (session.paint (session.canvas.pass clock session.documents uri)).Consistent := by
  rw [Canvas.pass]
  split
  · next on =>
    split
    · exact consistent
    · next document isOpen =>
      split
      · exact consistent.withDesk consistent.numbered
      · next judged cache _ =>
        have there : Keyed.has session.documents uri = true := by
          rw [Keyed.has, isOpen]
          rfl
        constructor
        · exact consistent.pending
        · intro other listed
          refine Canvas.mem_noteDrawn.mpr ?_
          simp only [paint, List.foldl_cons, List.foldl_nil] at listed
          rw [Board.has_redraw] at listed
          split at listed
          · next same => exact .inl same
          · exact .inr (consistent.marked other listed)
        · intro other listed
          rcases Canvas.mem_noteDrawn.mp listed with rfl | earlier
          · exact there
          · exact consistent.drawn other earlier
        · exact Canvas.nodup_noteDrawn consistent.once uri
        · exact consistent.numbered
        · intro off
          exact absurd (on.symm.trans off) (by decide)
  · exact consistent

theorem Consistent.paint_ring (consistent : session.Consistent) (clock : ClockReading)
    (alarm : Alarm) :
    (session.paint (session.canvas.ring clock session.documents alarm)).Consistent := by
  cases due : session.annotator.documentOf? alarm with
  | none =>
      rw [Canvas.ring_of_none due]
      exact consistent
  | some uri =>
      rw [Canvas.ring_of_some due]
      exact (consistent.disarm uri).paint_pass clock uri

theorem Consistent.toggled (consistent : session.Consistent) (clock : ClockReading) :
    (session.paint (session.canvas.setEnabled clock session.documents
      (!session.annotator.enabled))).Consistent := by
  cases on : session.annotator.enabled with
  | true =>
      rw [Bool.not_true, Canvas.setEnabled_false on]
      constructor
      · intro other set
        cases set
      · intro other listed
        rw [board_paint, Board.has_foldl_clear] at listed
        simp only [Bool.and_eq_true, decide_eq_true_eq, mem_sortedTexts] at listed
        exact absurd (consistent.marked other listed.2) listed.1
      · intro other listed
        exact absurd listed List.not_mem_nil
      · exact List.nodup_nil
      · exact consistent.numbered
      · exact fun _ => ⟨fun _ => rfl, rfl⟩
  | false =>
      have resumed : { session with
          annotator := { session.annotator with enabled := true } }.Consistent :=
        ⟨consistent.pending, consistent.marked, consistent.drawn, consistent.once,
          consistent.numbered, fun off => Bool.noConfusion off⟩
      rw [Bool.not_false]
      cases shown : session.annotator.active with
      | none =>
          rw [Canvas.setEnabled_true_of_none on shown]
          exact resumed
      | some uri =>
          rw [Canvas.setEnabled_true_of_some on shown]
          exact resumed.paint_pass clock uri

/-! ## The law -/

theorem Consistent.step (consistent : session.Consistent) (shows : session.ShowsOpen)
    (event : SessionEvent) : (session.step event).1.Consistent := by
  generalize result : session.step event = change
  have outcome := session.outcome event
  rw [result] at outcome
  cases outcome with
  | refused => exact consistent
  | opened number arguments uri text =>
      refine (consistent.setDocument uri ⟨text, 1⟩).activate ?_
      exact (Keyed.has_set _ _ _ _).trans (by simp)
  | updated =>
      refine (rearms_noteChange _ _).consistent ?_ (consistent.setDocument _ _)
      exact fun uri active => has_set_of_showsOpen shows _ _ active
  | closed => exact consistent.closed _
  | hovered number arguments isOpen position =>
      refine consistent.hovered shows number ?_ _ position
      rw [Keyed.has, isOpen]
      rfl
  | selected => exact consistent.atDesk_of_calm shows (session.desk.calm_analyzeSelection _ _ _ _)
  | toggled => exact consistent.toggled _
  | listed => exact consistent
  | reported => exact consistent.withDesk consistent.numbered
  | unreported => exact consistent.withDesk consistent.numbered
  | asked => exact consistent.of_same rfl rfl rfl rfl
  | probeDropped => exact consistent.of_same rfl rfl rfl rfl
  | withdrawn => exact consistent.atDesk_of_calm shows (session.desk.calm_withdraw _)
  | woken => exact consistent.atDesk_of_calm shows (session.desk.calm_ring _ _)
  | drawn => exact consistent.paint_ring _ _
  | received => exact consistent.withDesk consistent.numbered
  | handedOn => exact consistent.atDesk_of_calm shows (session.desk.calm_handOn _)
  | heard => exact consistent.of_same rfl rfl rfl rfl
  | ignored => exact consistent
  | waited => exact consistent.of_same rfl rfl rfl rfl
  | elsewhere => exact consistent.of_same rfl rfl rfl rfl

theorem consistent_start {settings : Settings} {acts : List SessionAct}
    (started : start? settings = some (first, acts)) : first.ShowsOpen ∧ first.Consistent := by
  obtain ⟨hoverDelay, timeToLive, rfl⟩ := start?_eq_some started
  constructor
  · intro uri active
    cases active
  · constructor
    · intro uri set
      cases set
    · intro uri listed
      cases listed
    · intro uri listed
      exact absurd listed List.not_mem_nil
    · exact List.nodup_nil
    · intro uri given
      cases given
    · exact fun _ => ⟨fun _ => rfl, rfl⟩

theorem consistent_of_course {settings : Settings} {acts : List SessionAct}
    (started : start? settings = some (first, acts)) (course : Course process first moments last) :
    last.ShowsOpen ∧ last.Consistent := by
  induction course with
  | start => exact consistent_start started
  | next event _ _ ih => exact ⟨ih.1.step event, ih.2.step ih.1 event⟩

/-- At every moment of a session the document in view is open, and so is every document for which an
alarm is set, that was drawn, or for whose hovers a number was given out; only documents that were
drawn have markers; and while annotations are disabled no alarm is set, nothing is drawn and no
document has markers. -/
theorem parts_agree {settings : Settings} {acts : List SessionAct}
    (started : start? settings = some (first, acts)) (course : Course process first moments last) :
    (∀ uri, last.annotator.active = some uri → Keyed.has last.documents uri = true) ∧
    (∀ uri, last.annotator.isPending uri = true → Keyed.has last.documents uri = true) ∧
    (∀ uri, Keyed.has last.board uri = true → uri ∈ last.annotator.drawn) ∧
    (∀ uri ∈ last.annotator.drawn, Keyed.has last.documents uri = true) ∧
    (∀ uri, Keyed.has last.desk.numbers uri = true → Keyed.has last.documents uri = true) ∧
    (last.annotator.enabled = false →
      (∀ uri, last.annotator.isPending uri = false) ∧ last.annotator.drawn = [] ∧
        ∀ uri, last.board.markersOf uri = []) := by
  obtain ⟨shows, consistent⟩ := consistent_of_course started course
  refine ⟨shows, consistent.pending, consistent.marked, consistent.drawn,
    consistent.numbered, ?_⟩
  intro off
  obtain ⟨unset, nothing⟩ := consistent.disabled off
  exact ⟨unset, nothing, consistent.unmarked off⟩

/-- A document is opened, and annotations are disabled. -/
def openedAndDisabled : List SessionEvent :=
  [.call 0 .openDocument oneFunction, .call 1 .toggleAnnotations .null]

/-- The law at work: the alarm that was set when the document was opened is gone, and the document
is still open. -/
theorem parts_agree_disabled :
    (process.last fresh (openedAndDisabled.take 1)).annotator.isPending "u" = true ∧
      (process.last fresh openedAndDisabled).annotator.isPending "u" = false ∧
      Keyed.has (process.last fresh openedAndDisabled).documents "u" = true := by
  have course : Course process fresh (process.moments fresh openedAndDisabled)
      (process.last fresh openedAndDisabled) :=
    Process.course_of_allows ⟨trivial, trivial, trivial⟩
  have ⟨set, off, active⟩ :
      (process.last fresh (openedAndDisabled.take 1)).annotator.isPending "u" = true ∧
        (process.last fresh openedAndDisabled).annotator.enabled = false ∧
        (process.last fresh openedAndDisabled).annotator.active = some "u" := by
    decide +kernel
  obtain ⟨inView, -, -, -, -, disabled⟩ := parts_agree
    (show start? fresh.settings = some (fresh, [.probe none]) from rfl) course
  exact ⟨set, (disabled off).1 "u", inView "u" active⟩

end Session

end CodeComplexity
