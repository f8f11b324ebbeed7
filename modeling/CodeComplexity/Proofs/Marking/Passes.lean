import CodeComplexity.Marking.Annotator
import CodeComplexity.Proofs.Source.Lines
import CodeComplexity.Proofs.Source.Spans
import CodeComplexity.Proofs.Verdict.Entries

/-!
# What a pass draws

A pass looks up the functions of a text one after the other, and each look-up changes the order of
the cache.  It does not change what the next ones find, so a pass draws what could be read from the
cache when it began: one marker for each function with such a verdict, in the order of the text, on
the line where the function starts.  But a function with a surrogate in it cannot be looked up, and
if there is one then the pass fails and draws nothing.
-/

namespace CodeComplexity

open Source Text

/-- Every function of a text can be looked up. -/
def EachWritable (text : LooseText) : Prop :=
  ∀ span ∈ locateAll text, ¬span.text.HasSurrogate

instance (text : LooseText) : Decidable (EachWritable text) :=
  inferInstanceAs (Decidable (∀ span ∈ locateAll text, ¬span.text.HasSurrogate))

theorem eachWritable_of_not_hasSurrogate {text : LooseText} (without : ¬text.HasSurrogate) :
    EachWritable text := by
  rintro span listed ⟨code, member⟩
  obtain ⟨number, below, -, rfl⟩ := mem_locateAll_iff.mp listed
  obtain ⟨line, among, inLine⟩ := (mem_joinLines_iff (by simp)).mp member
  have lineOf : line ∈ splitLines text.points := List.mem_of_mem_drop (List.mem_of_mem_take among)
  exact without ⟨code, mem_of_mem_splitLines lineOf inLine⟩

/-- The markers of the functions of a text whose verdicts may be read from a cache, in document
order. -/
def freshMarkers (now : Int) (text : LooseText) (cache : Cache) : List Marker :=
  (locateAll text).filterMap fun span => (cache.read? now span.text).map (Marker.ofVerdict span)

/-- Each function gets what could be read for it at first. -/
theorem lookUpAll_of_writable (now : Int) {spans : List FunctionSpan}
    (each : ∀ span ∈ spans, ¬span.text.HasSurrogate) (cache : Cache) :
    (lookUpAll (some now) spans cache).1 =
      .ok (spans.map fun span => (span, cache.read? now span.text)) := by
  induction spans generalizing cache with
  | nil => rfl
  | cons span rest ih =>
      obtain ⟨code, writes⟩ := LooseText.exists_encoded_eq_ok_iff.mpr (each span List.mem_cons_self)
      have others := ih fun other listed => each other (List.mem_cons_of_mem _ listed)
      simp only [lookUpAll, Cache.look, writes, others, List.map_cons, Cache.read?_get,
        Cache.read?_of_encoded writes]
      rfl

/-- If a function cannot be looked up, the first such one ends the look-ups, whatever is in the
cache. -/
theorem lookUpAll_of_unwritable {spans : List FunctionSpan}
    (one : ∃ span ∈ spans, span.text.HasSurrogate) :
    ∃ span ∈ spans, ∃ error, span.text.encoded = .error error ∧
      ∀ now cache, (lookUpAll (some now) spans cache).1 = .error (.unencodable error) := by
  induction spans with
  | nil => simp at one
  | cons span rest ih =>
      cases writes : span.text.encoded with
      | error error =>
          refine ⟨span, List.mem_cons_self, error, writes, fun now cache => ?_⟩
          simp only [lookUpAll, Cache.look, writes]
      | ok code =>
          have here : ¬span.text.HasSurrogate :=
            LooseText.exists_encoded_eq_ok_iff.mp ⟨code, writes⟩
          have further : ∃ other ∈ rest, other.text.HasSurrogate := by
            obtain ⟨other, listed, holds⟩ := one
            rcases List.mem_cons.mp listed with rfl | below
            · exact absurd holds here
            · exact ⟨other, below, holds⟩
          obtain ⟨other, listed, error, fails, ended⟩ := ih further
          refine ⟨other, List.mem_cons_of_mem _ listed, error, fails, fun now cache => ?_⟩
          simp only [lookUpAll, Cache.look, writes, ended]
          rfl

theorem lookUpAll_of_not_eachWritable {text : LooseText} (one : ¬EachWritable text) :
    ∃ span ∈ locateAll text, ∃ error, span.text.encoded = .error error ∧
      ∀ now cache,
        (lookUpAll (some now) (locateAll text) cache).1 = .error (.unencodable error) := by
  simp only [EachWritable, not_forall, not_not, exists_prop] at one
  exact lookUpAll_of_unwritable one

/-- If nothing fails, each function is found with what could be read for it at first. -/
theorem mem_of_lookUpAll {now : Int} {text : LooseText} {cache : Cache} {span : FunctionSpan}
    {found : List (FunctionSpan × Option Verdict)}
    (looked : (lookUpAll (some now) (locateAll text) cache).1 = .ok found)
    (listed : span ∈ locateAll text) : (span, cache.read? now span.text) ∈ found := by
  by_cases each : EachWritable text
  · rw [← Except.ok.inj ((lookUpAll_of_writable now each cache).symm.trans looked)]
    exact List.mem_map_of_mem listed
  · obtain ⟨-, -, error, -, ended⟩ := lookUpAll_of_not_eachWritable each
    cases (ended now cache).symm.trans looked

theorem judge_of_writable (now : Int) {text : LooseText} (each : EachWritable text)
    (cache : Cache) :
    ∃ judged, (judge (some now) text cache).1 = .ok judged ∧
      judged.map (fun function => Marker.ofVerdict function.span function.verdict) =
        freshMarkers now text cache := by
  refine ⟨judgedAmong ((locateAll text).map fun span => (span, cache.read? now span.text)), ?_, ?_⟩
  · simp only [judge, lookUpAll_of_writable now each]
    rfl
  · simp only [judgedAmong, List.filterMap_map, List.map_filterMap, freshMarkers]
    congr 1
    funext span
    simp only [Function.comp_apply, Option.map_map]
    rfl

theorem snd_judge (clock : ClockReading) (text : LooseText) (cache : Cache) :
    (judge clock text cache).2 = (lookUpAll clock (locateAll text) cache).2 := rfl

theorem judge_of_unwritable (now : Int) {text : LooseText} (one : ¬EachWritable text)
    (cache : Cache) : ∃ error, (judge (some now) text cache).1 = .error (.unencodable error) := by
  obtain ⟨-, -, error, -, ended⟩ := lookUpAll_of_not_eachWritable one
  refine ⟨error, ?_⟩
  simp only [judge, ended]
  rfl

/-! ## Markers stand where functions start -/

/-- Every marker stands on a line of the text that starts a function. -/
theorem isFunctionStart_of_mem_freshMarkers {now : Int} {text : LooseText} {cache : Cache}
    {marker : Marker} (drawn : marker ∈ freshMarkers now text cache) :
    ∃ line, (splitLines text.points)[marker.line]? = some line ∧ isFunctionStart line = true := by
  obtain ⟨span, listed, made⟩ := List.mem_filterMap.mp drawn
  obtain ⟨verdict, -, rfl⟩ := Option.map_eq_some_iff.mp made
  obtain ⟨number, below, there, rfl⟩ := mem_locateAll_iff.mp listed
  exact there.starts

/-- What stands on the first line of a function is made of its own verdict. -/
theorem mem_freshMarkers_iff {now : Int} {text : LooseText} {cache : Cache}
    {span : FunctionSpan}
    {marker : Marker} (listed : span ∈ locateAll text) (here : marker.line = span.startLine) :
    marker ∈ freshMarkers now text cache ↔
      ∃ verdict, cache.read? now span.text = some verdict ∧
        marker = Marker.ofVerdict span verdict := by
  constructor
  · intro drawn
    obtain ⟨other, otherListed, made⟩ := List.mem_filterMap.mp drawn
    obtain ⟨verdict, read, rfl⟩ := Option.map_eq_some_iff.mp made
    obtain rfl : other = span := eq_of_startLine_eq otherListed listed here
    exact ⟨verdict, read, rfl⟩
  · rintro ⟨verdict, read, rfl⟩
    exact List.mem_filterMap.mpr ⟨span, listed, by rw [read]; rfl⟩

/-! ## The pass -/

/-- What a pass over a text makes of the markers of its document: they are drawn anew, unless a
function cannot be looked up. -/
structure Redrawn (now : Int) (text : LooseText) (cache : Cache) (before after : List Marker) :
    Prop where
  drawn : EachWritable text → after = freshMarkers now text cache
  failed : ¬EachWritable text → after = before

namespace Canvas

variable {canvas : Canvas} {documents : Documents} {uri : Uri} {document : Document}

/-- While annotations are enabled, a pass over an open document replaces its markers by those of its
text. -/
theorem pass_of_open {annotator : Annotator} (cache : Cache) (now : Int)
    (enabled : annotator.enabled = true) (isOpen : Keyed.get? documents uri = some document)
    (each : EachWritable document.text) :
    (Canvas.mk annotator cache).pass (some now) documents uri =
      (⟨{ annotator with drawn := noteDrawn annotator.drawn uri },
          (lookUpAll (some now) (locateAll document.text) cache).2⟩,
        [⟨uri, freshMarkers now document.text cache⟩]) := by
  obtain ⟨judged, found, markers⟩ := judge_of_writable now each cache
  rw [pass, if_pos enabled, isOpen]
  dsimp only
  split
  · next error left failed =>
    rw [failed] at found
    cases found
  · next others left result =>
    rw [result] at found
    obtain rfl := Except.ok.inj found
    rw [markers, ← snd_judge, result]

/-- A pass draws nothing if a function of its document cannot be looked up. -/
theorem pass_of_unwritable {annotator : Annotator} (cache : Cache) (now : Int)
    (isOpen : Keyed.get? documents uri = some document) (one : ¬EachWritable document.text) :
    (Canvas.mk annotator cache).pass (some now) documents uri =
      (⟨annotator, if annotator.enabled then
          (lookUpAll (some now) (locateAll document.text) cache).2 else cache⟩, []) := by
  obtain ⟨error, ended⟩ := judge_of_unwritable now one cache
  rw [pass]
  dsimp only
  split
  · rw [isOpen]
    dsimp only
    split
    · next fault left failed => rw [← snd_judge, failed]
    · next judged left result =>
      rw [result] at ended
      cases ended
  · rfl

/-- A pass leaves the markers of other documents, and all alarms. -/
theorem pass_still (canvas : Canvas) (clock : ClockReading) (documents : Documents) (uri : Uri) :
    (∀ change ∈ (canvas.pass clock documents uri).2, change.uri = uri) ∧
      ∃ drawn, (canvas.pass clock documents uri).1.annotator = { canvas.annotator with drawn } := by
  rw [pass]
  split
  · split
    · exact ⟨by simp, _, rfl⟩
    · split
      · exact ⟨by simp, _, rfl⟩
      · exact ⟨by simp, _, rfl⟩
  · exact ⟨by simp, _, rfl⟩

theorem ring_of_none {clock : ClockReading} {alarm : Alarm}
    (unset : canvas.annotator.documentOf? alarm = none) :
    canvas.ring clock documents alarm = (canvas, []) := by
  rw [ring]
  rw [unset]

theorem ring_of_some {clock : ClockReading} {alarm : Alarm}
    (due : canvas.annotator.documentOf? alarm = some uri) :
    canvas.ring clock documents alarm =
      (Canvas.mk (canvas.annotator.disarm uri) canvas.cache).pass clock documents uri := by
  rw [ring]
  rw [due]

theorem setEnabled_false {clock : ClockReading} (on : canvas.annotator.enabled = true) :
    canvas.setEnabled clock documents false =
      (⟨{ canvas.annotator with enabled := false, alarms := [], drawn := [] }, canvas.cache⟩,
        (sortedTexts canvas.annotator.drawn).map fun uri => ⟨uri, []⟩) := by
  simp [setEnabled, on]

theorem setEnabled_true_of_none {clock : ClockReading} (off : canvas.annotator.enabled = false)
    (shown : canvas.annotator.active = none) :
    canvas.setEnabled clock documents true =
      (⟨{ canvas.annotator with enabled := true }, canvas.cache⟩, []) := by
  simp [setEnabled, off, shown]

theorem setEnabled_true_of_some {clock : ClockReading} (off : canvas.annotator.enabled = false)
    (shown : canvas.annotator.active = some uri) :
    canvas.setEnabled clock documents true =
      (Canvas.mk { canvas.annotator with enabled := true } canvas.cache).pass clock documents
        uri := by
  simp [setEnabled, off, shown]

theorem active_pass (canvas : Canvas) (clock : ClockReading) (documents : Documents) (uri : Uri) :
    (canvas.pass clock documents uri).1.annotator.active = canvas.annotator.active := by
  obtain ⟨-, drawn, annotator⟩ := canvas.pass_still clock documents uri
  rw [annotator]

@[simp] theorem active_ring (canvas : Canvas) (clock : ClockReading) (documents : Documents)
    (alarm : Alarm) :
    (canvas.ring clock documents alarm).1.annotator.active = canvas.annotator.active := by
  cases due : canvas.annotator.documentOf? alarm with
  | none => rw [ring_of_none due]
  | some uri =>
      rw [ring_of_some due, active_pass]
      rfl

@[simp] theorem active_setEnabled (canvas : Canvas) (clock : ClockReading) (documents : Documents)
    (enabled : Bool) :
    (canvas.setEnabled clock documents enabled).1.annotator.active = canvas.annotator.active := by
  rw [setEnabled]
  dsimp only
  split
  · rfl
  · split
    · split
      · rfl
      · rw [active_pass]
    · rfl

end Canvas

theorem Board.markersOf_foldl_redraw {board : Board} {changes : List Redraw} {uri : Uri}
    (others : ∀ change ∈ changes, change.uri ≠ uri) :
    (changes.foldl Board.redraw board).markersOf uri = board.markersOf uri := by
  induction changes generalizing board with
  | nil => rfl
  | cons change rest ih =>
      rw [List.foldl_cons, ih fun later listed => others later (List.mem_cons_of_mem _ listed),
        Board.markersOf_redraw, if_neg (Ne.symm (others change List.mem_cons_self))]

end CodeComplexity
