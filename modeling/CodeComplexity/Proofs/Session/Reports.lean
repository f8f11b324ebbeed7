import CodeComplexity.Proofs.Analysis.Coalescing
import CodeComplexity.Proofs.Marking.Tallies
import CodeComplexity.Proofs.Session.Markers

/-!
# Reports and passes

A report on an open document tallies just what a pass over it draws, whichever of them comes first.
If a function of the document cannot be looked up, then both of them fail.  Neither of them asks the
classifier or touches anything but the order of the cache, apart from the markers that the pass
draws.
-/

namespace CodeComplexity

open Source Text

namespace Session

variable {session other : Session} {number : Nat} {arguments : Json} {uri : Uri}
  {document : Document} {result : Except Fault ToolResult} {markers : List Marker}

def withCache (session : Session) (cache : Cache) : Session :=
  { session with desk := { session.desk with cache } }

/-- The session after a pass over a document. -/
def passOver (session : Session) (uri : Uri) : Session :=
  session.paint (session.canvas.pass (some session.timeline.now) session.documents uri)

/-- A call for a report ends at once, and the cache is reordered at most. -/
def Reports (session : Session) (number : Nat) (arguments : Json)
    (result : Except Fault ToolResult) : Prop :=
  ∃ cache, session.desk.cache.Reordered cache ∧
    session.step (.call number .complexityReport arguments) =
      (session.withCache cache, [.finish number result])

/-- A pass over a document replaces its markers, and the cache is reordered at most. -/
def Repaints (session : Session) (uri : Uri) (markers : List Marker) : Prop :=
  ∃ cache, session.desk.cache.Reordered cache ∧
    session.passOver uri = { session.withCache cache with
      annotator := { session.annotator with
        drawn := Canvas.noteDrawn session.annotator.drawn uri }
      board := session.board.redraw ⟨uri, markers⟩ }

/-- A pass over a document draws nothing, and the cache is reordered at most. -/
def Fails (session : Session) (uri : Uri) : Prop :=
  ∃ cache, session.desk.cache.Reordered cache ∧ session.passOver uri = session.withCache cache

theorem Repaints.markersOf (repaints : session.Repaints uri markers) :
    (session.passOver uri).board.markersOf uri = markers := by
  obtain ⟨cache, -, passed⟩ := repaints
  rw [passed]
  exact (Board.markersOf_redraw _ _ _).trans (if_pos rfl)

theorem Fails.board_eq (fails : session.Fails uri) :
    (session.passOver uri).board = session.board := by
  obtain ⟨cache, -, passed⟩ := fails
  rw [passed]
  rfl

/-- Two sessions in which reports tell the same and passes draw the same. -/
structure Alike (session other : Session) : Prop where
  documents : other.documents = session.documents
  now : other.timeline.now = session.timeline.now
  enabled : other.annotator.enabled = session.annotator.enabled
  cache : session.desk.cache.Reordered other.desk.cache

namespace Alike

theorem refl (session : Session) : session.Alike session :=
  ⟨rfl, rfl, rfl, .refl _⟩

theorem of_reports (reports : session.Reports number arguments result) :
    session.Alike (session.step (.call number .complexityReport arguments)).1 := by
  obtain ⟨cache, reordered, told⟩ := reports
  rw [told]
  exact ⟨rfl, rfl, rfl, reordered⟩

theorem of_repaints (repaints : session.Repaints uri markers) :
    session.Alike (session.passOver uri) := by
  obtain ⟨cache, reordered, passed⟩ := repaints
  rw [passed]
  exact ⟨rfl, rfl, rfl, reordered⟩

theorem of_fails (fails : session.Fails uri) : session.Alike (session.passOver uri) := by
  obtain ⟨cache, reordered, passed⟩ := fails
  rw [passed]
  exact ⟨rfl, rfl, rfl, reordered⟩

variable (alike : session.Alike other)

include alike

/-- What the tally of a document comes to is what a report on it tells. -/
theorem reports {input : DocumentInput}
    (accepted : InputKind.document.accept (DocumentInput.ofMembers arguments) = .ok input)
    (isOpen : Keyed.get? session.documents input.uri = some document)
    {tallied : Except LookFault Tally}
    (counts : (Tally.ofText (some session.timeline.now) document.text session.desk.cache).1 =
      tallied) :
    other.Reports number arguments ((tallied.mapError Fault.ofLook).map (.report input.uri)) := by
  refine ⟨_, reordered_lookUpAll other.timeline.now (locateAll document.text) _, ?_⟩
  rw [← Tally.ofText_of_reordered alike.cache, ← alike.now] at counts
  rw [← alike.documents] at isOpen
  change other.callTool number .complexityReport arguments = _
  simp only [callTool, perform, complexityReport, accepted, bind, Except.bind,
    require_eq_ok_iff.mpr isOpen, ← counts]
  rfl

theorem repaints (enabled : session.annotator.enabled = true)
    (isOpen : Keyed.get? session.documents uri = some document)
    (each : EachWritable document.text) :
    other.Repaints uri (freshMarkers session.timeline.now document.text session.desk.cache) := by
  refine ⟨_, reordered_lookUpAll other.timeline.now (locateAll document.text) _, ?_⟩
  rw [← alike.documents] at isOpen
  rw [passOver, canvas, Canvas.pass_of_open _ _ (alike.enabled.trans enabled) isOpen each,
    alike.cache.freshMarkers_eq, alike.now]
  rfl

theorem fails (isOpen : Keyed.get? session.documents uri = some document)
    (one : ¬EachWritable document.text) : other.Fails uri := by
  rw [← alike.documents] at isOpen
  rw [Fails, passOver, canvas, Canvas.pass_of_unwritable _ _ isOpen one]
  split
  · exact ⟨_, reordered_lookUpAll other.timeline.now (locateAll document.text) _, rfl⟩
  · exact ⟨_, .refl _, rfl⟩

end Alike

theorem alike_disarm (session : Session) (uri : Uri) :
    session.Alike { session with annotator := session.annotator.disarm uri } :=
  ⟨rfl, rfl, rfl, .refl _⟩

/-- When the alarm of a document rings, the document is drawn, and nothing else is done. -/
theorem step_ring_of_due {alarm : Alarm} (other : session.desk.owns alarm = false)
    (due : session.annotator.documentOf? alarm = some uri) :
    session.step (.ring alarm) =
      ({ session with annotator := session.annotator.disarm uri }.passOver uri, []) := by
  change session.ring alarm = _
  rw [ring, other]
  change (session.paint (session.canvas.ring _ _ alarm), []) = _
  rw [Canvas.ring_of_some due]
  rfl

/-- A function that comes twice, once within another one. -/
def repeatedFunctions : Text.LooseText :=
  "function g() \x7b\nfunction f(a) \x7b\n\x7d\n\x7d\nfunction f(a) \x7b\n\x7d"

/-- A session in which a document with them is open.  The verdict on the function that comes twice
may be read, the one on the function around it has expired. -/
def reportable : Session :=
  let verdict : Verdict := { Office.plainVerdict with complexity := .moderate }
  let cache := (fresh.desk.cache.put (-300000001)
    "function g() \x7b\nfunction f(a) \x7b\n\x7d\n\x7d" verdict).put 0
      "function f(a) \x7b\n\x7d" verdict
  { fresh.withCache cache with documents := [("u", ⟨repeatedFunctions, 1⟩)] }

/-- The tally that an act tells. -/
def tallyTold? : SessionAct → Option Tally
  | .finish _ (.ok (.report _ tally)) => some tally
  | _ => none

end Session

end CodeComplexity
