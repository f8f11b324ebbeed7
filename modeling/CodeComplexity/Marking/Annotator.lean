import CodeComplexity.Marking.Judged
import CodeComplexity.Document.Store
import CodeComplexity.Verdict.Display

/-!
# Inline annotations

When the markers of a document are drawn.  Showing a document, or changing the one that is shown,
sets an alarm for it; setting it again replaces the earlier alarm, so a burst of changes leads to
one pass.  A pass reads the current text of the document, looks up its functions in the cache and
draws all markers of the document anew.  It never asks the classifier.
-/

namespace CodeComplexity

/-- All markers of a document are replaced by these. -/
structure Redraw where
  uri : Uri
  markers : List Marker
  deriving DecidableEq, Repr

/-- The markers that are to be seen, by document; a document without markers is not listed. -/
abbrev Board := Keyed (List Marker) Uri

namespace Board

/-- Replace all markers of a document. -/
def redraw (board : Board) (change : Redraw) : Board :=
  if change.markers.isEmpty then Keyed.erase change.uri board
  else Keyed.set change.uri change.markers board

def markersOf (board : Board) (uri : Uri) : List Marker :=
  (Keyed.get? board uri).getD []

theorem markersOf_redraw (board : Board) (change : Redraw) (uri : Uri) :
    (board.redraw change).markersOf uri =
      if uri = change.uri then change.markers else board.markersOf uri := by
  simp only [redraw, markersOf]
  split
  · next empty =>
    rw [Keyed.get?_erase]
    split <;> simp_all
  · rw [Keyed.get?_set]
    split <;> rfl

end Board

/-- When markers are drawn. -/
structure Annotator where
  /-- How long nothing may change before a pass. -/
  delay : Int
  enabled : Bool
  /-- The document that is shown. -/
  active : Option Uri
  /-- The alarms that are set, by document. -/
  alarms : Keyed Alarm Uri
  /-- The documents that a pass has drawn. -/
  drawn : List Uri
  deriving DecidableEq, Repr

/-- Texts in the order of their code points. -/
def sortedTexts (texts : List Text.LooseText) : List Text.LooseText :=
  let before (first second : Text.LooseText) : Bool :=
    first.points.lex second.points fun c other => c.toNat < other.toNat
  texts.mergeSort fun first second => !before second first

namespace Annotator

def start (delay : Int) (enabled : Bool) : Annotator :=
  ⟨delay, enabled, none, [], []⟩

/-- The alarm that a change sets now. -/
def alarmNow (annotator : Annotator) (timeline : Timeline) : Alarm :=
  timeline.alarmIn annotator.delay false

def isPending (annotator : Annotator) (uri : Uri) : Bool :=
  Keyed.has annotator.alarms uri

/-- Drop the alarm of a document. -/
def disarm (annotator : Annotator) (uri : Uri) : Annotator :=
  { annotator with alarms := Keyed.erase uri annotator.alarms }

/-- Set the alarm of a document anew. -/
def arm (annotator : Annotator) (timeline : Timeline) (uri : Uri) : Annotator :=
  { annotator with
    alarms := Keyed.set uri (annotator.alarmNow timeline) (Keyed.erase uri annotator.alarms) }

/-- A document comes into view. -/
def activate (annotator : Annotator) (timeline : Timeline) (uri : Uri) : Annotator :=
  let shown := { annotator with active := some uri }
  if annotator.enabled then shown.arm timeline uri else shown

/-- A document has changed; only the one in view matters. -/
def change (annotator : Annotator) (timeline : Timeline) (uri : Uri) : Annotator :=
  if annotator.enabled && annotator.active == some uri then annotator.arm timeline uri
  else annotator

/-- A document goes out of view for good, and its markers with it. -/
def close (annotator : Annotator) (uri : Uri) : Annotator × List Redraw :=
  let left := annotator.disarm uri
  ({ left with
      drawn := left.drawn.erase uri
      active := if left.active = some uri then none else left.active }, [⟨uri, []⟩])

/-- Drop all alarms. -/
def shutdown (annotator : Annotator) : Annotator :=
  { annotator with alarms := [] }

def nextAlarm? (annotator : Annotator) : Option Alarm :=
  Alarm.earliest? (annotator.alarms.map Prod.snd)

def documentOf? (annotator : Annotator) (alarm : Alarm) : Option Uri :=
  (annotator.alarms.find? fun (_, set) => set = alarm).map Prod.fst

end Annotator

/-- What a pass works with, and what it leaves. -/
structure Canvas where
  annotator : Annotator
  cache : Cache

namespace Canvas

/-- A document was drawn. -/
def noteDrawn (drawn : List Uri) (uri : Uri) : List Uri :=
  if drawn.contains uri then drawn else drawn ++ [uri]

/-- Draw the markers of a document.  Nothing is drawn while annotations are disabled, of a document
that is not open, or if one of its functions cannot be looked up; the ones before it have been
then. -/
def pass (canvas : Canvas) (clock : ClockReading) (documents : Documents) (uri : Uri) :
    Canvas × List Redraw :=
  if canvas.annotator.enabled then
    match Keyed.get? documents uri with
    | none => (canvas, [])
    | some document =>
      match judge clock document.text canvas.cache with
      | (.error _, cache) => ({ canvas with cache }, [])
      | (.ok judged, cache) =>
        let markers := judged.map fun function => Marker.ofVerdict function.span function.verdict
        (⟨{ canvas.annotator with drawn := noteDrawn canvas.annotator.drawn uri }, cache⟩,
          [⟨uri, markers⟩])
  else (canvas, [])

/-- Disable or enable annotations.  Disabling clears all markers and drops all alarms, enabling
draws the document in view at once. -/
def setEnabled (canvas : Canvas) (clock : ClockReading) (documents : Documents) (enabled : Bool) :
    Canvas × List Redraw :=
  let annotator := canvas.annotator
  if enabled = annotator.enabled then (canvas, [])
  else if enabled then
    let resumed : Canvas := { canvas with annotator := { annotator with enabled := true } }
    match annotator.active with
    | none => (resumed, [])
    | some uri => resumed.pass clock documents uri
  else
    ({ canvas with annotator := { annotator with enabled := false, alarms := [], drawn := [] } },
      (sortedTexts annotator.drawn).map fun uri => ⟨uri, []⟩)

/-- An alarm rings: it is dropped, and its document is drawn. -/
def ring (canvas : Canvas) (clock : ClockReading) (documents : Documents) (alarm : Alarm) :
    Canvas × List Redraw :=
  match canvas.annotator.documentOf? alarm with
  | none => (canvas, [])
  | some uri =>
    pass { canvas with annotator := canvas.annotator.disarm uri } clock documents uri

end Canvas

end CodeComplexity
