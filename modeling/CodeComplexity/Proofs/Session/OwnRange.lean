import CodeComplexity.Proofs.Analysis.Outcome
import CodeComplexity.Proofs.Marking.Passes
import CodeComplexity.Proofs.Session.Selections
import CodeComplexity.Proofs.Source.Ranges

/-!
# One entry for each function

The verdict on a function is looked for by hovers over it, by passes that draw its marker, by
reports that count it, and by selections of its own range.  All of them look up the same text, so
the verdict that one of them has brought is the one that the others find.  If the text cannot be
written, then all of them fail.
-/

namespace CodeComplexity

open Source Text

variable {text : LooseText} {span : FunctionSpan} {code : String} {error : EncodeError}

namespace Bounds

/-- The bounds of the range of a function. -/
def ofSpan (span : FunctionSpan) : Bounds :=
  ⟨some span.startLine, 0, some span.endLine, some span.lastLineLength⟩

theorem ordered_ofSpan (span : FunctionSpan) : ¬ (ofSpan span).IllOrdered :=
  span.not_before_start _

theorem check_ofSpan (span : FunctionSpan) : (ofSpan span).check = .valid (ofSpan span) :=
  check_of_unnoticed fun both => ordered_ofSpan span both.1

theorem range_ofSpan (span : FunctionSpan) : (ofSpan span).range = .valid (some span.range) := by
  have ordered :
      ¬ ((ofSpan span).stop span.startLine).Before ((ofSpan span).start span.startLine) :=
    ordered_ofSpan span
  rw [range_of_some rfl, TextRange.ofEnds, TextRange.ofPositions?, dif_neg ordered]
  rfl

end Bounds

namespace Desk

variable {κ : Type} {desk : Desk κ} {timeline : Timeline}

/-- Whoever looks for the verdict on a function of a text looks up the code of that function. -/
structure SharesEntry (desk : Desk κ) (timeline : Timeline) (text : LooseText)
    (span : FunctionSpan) (code : String) : Prop where
  /-- A selection of the function's range does, -/
  selected (caller : κ) : desk.analyzeSelection timeline.now caller text (some span.range) =
    desk.seek timeline.now ⟨caller, .verdict⟩ code
  /-- a hover over it, which waits for the cursor to rest if there is nothing to read, -/
  hovered (caller : κ) (uri : Uri) (position : Position) :
    locateContaining text position = some span →
      desk.hover timeline caller uri text position =
        if (desk.cache.get timeline.now code).1 = none ∧ 0 < desk.hoverDelay then
          (desk.settle timeline caller uri span code, [])
        else desk.seek timeline.now ⟨caller, .hover span⟩ code
  /-- a pass that draws what stands on its first line, -/
  drawn (marker : Marker) : marker.line = span.startLine →
    (marker ∈ freshMarkers timeline.now text desk.cache ↔
      ∃ verdict, (desk.cache.get timeline.now code).1 = some verdict ∧
        marker = .ofVerdict span verdict)
  /-- and a report, if all functions can be looked up. -/
  counted : ∀ found, (lookUpAll timeline.now (locateAll text) desk.cache).1 = .ok found →
    (span, (desk.cache.get timeline.now code).1) ∈ found
  /-- The entry is the one that a reply about that code fills. -/
  filled (now : Int) (verdict : Verdict) : timeline.now - now ≤ desk.cache.timeToLive →
    ((desk.receive now code (.ok verdict)).cache.get timeline.now code).1 = some verdict

/-- Whoever looks for the verdict on a function that cannot be written fails. -/
structure FailsAlike (desk : Desk κ) (timeline : Timeline) (text : LooseText)
    (span : FunctionSpan) (error : EncodeError) : Prop where
  selected (caller : κ) : desk.analyzeSelection timeline.now caller text (some span.range) =
    (desk, [.give caller (.error (.unencodable error))])
  hovered (caller : κ) (uri : Uri) (position : Position) :
    locateContaining text position = some span →
      desk.hover timeline caller uri text position =
        (desk, [.give caller (.error (.unencodable error))])
  drawn (annotator : Annotator) (documents : Documents) (uri : Uri) (document : Document) :
    Keyed.get? documents uri = some document → document.text = text →
      ((Canvas.mk annotator desk.cache).pass timeline.now documents uri).2 = []
  counted : ∃ first, (lookUpAll timeline.now (locateAll text) desk.cache).1 =
    .error (.unencodable first)

/-- A selection of a function's range seeks the verdict on the text of the function. -/
theorem analyzeSelection_range (desk : Desk κ) (now : Int) (caller : κ)
    (listed : span ∈ locateAll text) :
    desk.analyzeSelection now caller text (some span.range) =
      desk.seekText now ⟨caller, .verdict⟩ span.text := by
  simp only [analyzeSelection, extractText_range listed, not_allBlank_text listed, analyzeCode,
    Bool.false_eq_true, if_false]

theorem sharesEntry (desk : Desk κ) (timeline : Timeline) (listed : span ∈ locateAll text)
    (writes : span.text.encoded = .ok code) : desk.SharesEntry timeline text span code := by
  constructor
  · intro caller
    rw [desk.analyzeSelection_range timeline.now caller listed, seekText_eq_seek writes]
  · intro caller uri position found
    split
    · next waits => exact hover_eq_settle found writes waits.1 waits.2
    · next asks => exact hover_eq_seek found writes (not_and_or.mp asks)
  · intro marker here
    rw [← Cache.read?_of_encoded writes]
    exact mem_freshMarkers_iff listed here
  · intro found looked
    rw [← Cache.read?_of_encoded writes]
    exact mem_of_lookUpAll looked listed
  · exact fun now verdict inTime => Cache.get_put_self inTime

theorem failsAlike (desk : Desk κ) (timeline : Timeline) (listed : span ∈ locateAll text)
    (fails : span.text.encoded = .error error) : desk.FailsAlike timeline text span error := by
  have one : ¬EachWritable text := fun each =>
    each span listed (LooseText.exists_encoded_eq_error_iff.mp ⟨error, fails⟩)
  constructor
  · intro caller
    rw [desk.analyzeSelection_range timeline.now caller listed, seekText, fails]
  · exact fun caller uri position found => hover_eq_give found fails
  · rintro annotator documents uri document isOpen rfl
    rw [Canvas.pass_of_unwritable desk.cache timeline.now isOpen one]
  · obtain ⟨-, -, first, -, ended⟩ := lookUpAll_of_not_eachWritable one
    exact ⟨first, ended _ _⟩

end Desk

namespace Session

/-- The range of a function selects its text, and its bounds are accepted.  Analysing them asks for
the verdict on that text, and so do hovers over the function, passes and reports, and all of them
fail if it cannot be written. -/
theorem own_ranges_share_entries (text : LooseText) (span : FunctionSpan)
    (located : span ∈ locateAll text ∨ ∃ position, locateContaining text position = some span) :
    extractText text (some span.range) = span.text ∧
    (Bounds.ofSpan span).check = .valid (.ofSpan span) ∧
    (Bounds.ofSpan span).range = .valid (some span.range) ∧
    (∀ (session : Session) number arguments input document,
      SelectionInput.ofMembers arguments = .valid input → input.bounds = .ofSpan span →
      Keyed.get? session.documents input.document.uri = some document → document.text = text →
      session.step (.call number .analyzeSelection arguments) =
        session.atDesk (session.desk.seekText session.timeline.now
          ⟨⟨number, input.document.uri⟩, .verdict⟩ span.text)) ∧
    ∀ (desk : Desk Caller) timeline,
      (∀ code, span.text.encoded = .ok code → desk.SharesEntry timeline text span code) ∧
      ∀ error, span.text.encoded = .error error → desk.FailsAlike timeline text span error := by
  have listed : span ∈ locateAll text := by
    rcases located with listed | ⟨position, found⟩
    · exact listed
    · exact mem_locateAll_of_locateContaining found
  refine ⟨extractText_range listed, Bounds.check_ofSpan span, Bounds.range_ofSpan span, ?_,
    fun desk timeline => ⟨fun code => desk.sharesEntry timeline listed,
      fun error => desk.failsAlike timeline listed⟩⟩
  rintro session number arguments input document accepted bounds isOpen rfl
  rw [step_of_accepted accepted isOpen, bounds, Bounds.range_ofSpan]
  dsimp only
  rw [Desk.analyzeSelection_range _ _ _ listed]

/-- A document with carriage returns, in which something stands behind the function's last brace. -/
def returnedFunction : Json :=
  .obj [("uri", .str "u"), ("text", .str "function f(a) \x7b\r\n\x7d // end\r\nlast")]

def returnedRange : Json :=
  .obj [("uri", .str "u"), ("start_line", .int 0), ("end_line", .int 1), ("end_character", .int 8)]

/-- The law at work: what is sent is the text of the function, with line feeds only. -/
theorem own_ranges_share_entries_returned :
    ((process.last fresh [.call 0 .openDocument returnedFunction]).step
      (.call 1 .analyzeSelection returnedRange)).2 =
        [.classify "function f(a) \x7b\n\x7d // end"] := by
  let span : FunctionSpan := ⟨0, 1, "function f(a) \x7b\n\x7d // end", by decide⟩
  have listed : span ∈ locateAll "function f(a) \x7b\r\n\x7d // end\r\nlast" := by decide +kernel
  obtain ⟨-, -, -, analysed, -⟩ := own_ranges_share_entries _ span (.inl listed)
  have bounds : Bounds.ofSpan span = ⟨some 0, 0, some 1, some 8⟩ := by decide +kernel
  rw [analysed _ 1 returnedRange ⟨⟨"u", ""⟩, .ofSpan span⟩
    ⟨"function f(a) \x7b\r\n\x7d // end\r\nlast", 1⟩ (by rw [bounds]; rfl) rfl rfl rfl]
  rfl

end Session

end CodeComplexity
