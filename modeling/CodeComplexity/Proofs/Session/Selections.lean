import CodeComplexity.Proofs.Session.Outcome

/-!
# Selections that are accepted

The bounds of a selection are compared twice: when they are checked, and when the range between them
is made.  The two comparisons put different characters in place of one that is left out, and only
bounds that name their last line are compared when they are checked.  `Bounds.Overlooked` says which
bounds are accepted although no range lies between them; all others that are accepted have a range,
and a selection is analysed or refused accordingly.
-/

namespace CodeComplexity

open Check Source

namespace Bounds

variable {bounds : Bounds} {startLine : Nat}

/-- Where the selection starts, if it starts on a line. -/
def start (bounds : Bounds) (startLine : Nat) : Position :=
  ⟨startLine, bounds.startCharacter⟩

/-- Where the selection stops, with what is put in place of what is left out. -/
def stop (bounds : Bounds) (startLine : Nat) : Position :=
  ⟨bounds.endLine.getD startLine, bounds.endCharacter.getD lineEnd⟩

/-- The selection has a last line and no first one, or it stops before it starts. -/
def IllOrdered (bounds : Bounds) : Prop :=
  match bounds.startLine with
  | none => bounds.endLine ≠ none
  | some startLine => (bounds.stop startLine).Before (bounds.start startLine)

/-- What is said about bounds that are out of order. -/
def objection (bounds : Bounds) : String :=
  if bounds.startLine = none then "end_line given without start_line"
  else "selection end precedes selection start"

/-- The selection stops before it starts, and this goes unnoticed. -/
inductive Overlooked (bounds : Bounds) : Prop where
  /-- The last line is left out, and the end character comes before the start character. -/
  | unlined {startLine character : Nat} (starts : bounds.startLine = some startLine)
      (noLine : bounds.endLine = none) (ends : bounds.endCharacter = some character)
      (before : character < bounds.startCharacter)
  /-- The end character is left out, and the start character lies beyond the end of every line. -/
  | beyond {startLine : Nat} (starts : bounds.startLine = some startLine)
      (sameLine : bounds.endLine.getD startLine = startLine) (noEnd : bounds.endCharacter = none)
      (far : lineEnd < bounds.startCharacter)

theorem illOrdered_of_none (absent : bounds.startLine = none) :
    bounds.IllOrdered ↔ bounds.endLine ≠ none := by
  rw [IllOrdered, absent]

theorem illOrdered_of_some (starts : bounds.startLine = some startLine) :
    bounds.IllOrdered ↔ (bounds.stop startLine).Before (bounds.start startLine) := by
  rw [IllOrdered, starts]

theorem Overlooked.starts (overlooked : bounds.Overlooked) :
    ∃ startLine, bounds.startLine = some startLine := by
  cases overlooked with
  | unlined starts noLine ends before => exact ⟨_, starts⟩
  | beyond starts sameLine noEnd far => exact ⟨_, starts⟩

theorem overlooked_iff (starts : bounds.startLine = some startLine) :
    bounds.Overlooked ↔
      (bounds.endLine = none ∧ ∃ character, bounds.endCharacter = some character ∧
        character < bounds.startCharacter) ∨
      bounds.endLine.getD startLine = startLine ∧ bounds.endCharacter = none ∧
        lineEnd < bounds.startCharacter := by
  constructor
  · intro overlooked
    cases overlooked with
    | unlined _ noLine ends before => exact .inl ⟨noLine, _, ends, before⟩
    | beyond same sameLine noEnd far =>
        obtain rfl := Option.some.inj (starts.symm.trans same)
        exact .inr ⟨sameLine, noEnd, far⟩
  · rintro (⟨noLine, character, ends, before⟩ | ⟨sameLine, noEnd, far⟩)
    · exact .unlined starts noLine ends before
    · exact .beyond starts sameLine noEnd far

theorem Overlooked.illOrdered (overlooked : bounds.Overlooked) : bounds.IllOrdered := by
  obtain ⟨startLine, starts⟩ := overlooked.starts
  rw [illOrdered_of_some starts]
  rcases (overlooked_iff starts).mp overlooked with
    ⟨noLine, character, ends, before⟩ | ⟨sameLine, noEnd, far⟩
  · rw [stop, noLine, ends]
    exact .inr ⟨rfl, before⟩
  · rw [stop, sameLine, noEnd]
    exact .inr ⟨rfl, far⟩

/-! ## The range -/

theorem range_of_some (starts : bounds.startLine = some startLine) :
    bounds.range =
      some <$> TextRange.ofEnds (bounds.start startLine) (bounds.stop startLine) := by
  rw [range, starts]
  rfl

/-- Bounds in order have a range, or none if everything is selected. -/
theorem range_of_ordered (ordered : ¬ bounds.IllOrdered) :
    ∃ range, bounds.range = .valid range := by
  cases starts : bounds.startLine with
  | none => exact ⟨none, by rw [range, starts]⟩
  | some startLine =>
      rw [illOrdered_of_some starts] at ordered
      refine ⟨some ⟨_, _, ordered⟩, ?_⟩
      rw [range_of_some starts, TextRange.ofEnds, TextRange.ofPositions?, dif_neg ordered]
      rfl

theorem range_of_before (starts : bounds.startLine = some startLine)
    (disordered : bounds.IllOrdered) :
    bounds.range = .refuse (.broken "range end precedes range start") := by
  rw [illOrdered_of_some starts] at disordered
  rw [range_of_some starts, TextRange.ofEnds, TextRange.ofPositions?_eq_none_iff.mpr disordered]
  rfl

/-! ## The check -/

theorem check_of_lines {endLine : Nat} (starts : bounds.startLine = some startLine)
    (ends : bounds.endLine = some endLine) :
    bounds.check =
      if Position.Before ⟨endLine, bounds.endCharacter.getD bounds.startCharacter⟩
          (bounds.start startLine)
      then .refuse (.broken bounds.objection) else .valid bounds := by
  have objection : bounds.objection = "selection end precedes selection start" := by
    rw [objection, starts]
    rfl
  rw [check, starts, ends, objection]
  rfl

/-- The comparison finds just those bounds out of order that are not overlooked. -/
theorem before_iff_noticed {endLine : Nat} (starts : bounds.startLine = some startLine)
    (ends : bounds.endLine = some endLine) :
    Position.Before ⟨endLine, bounds.endCharacter.getD bounds.startCharacter⟩
        (bounds.start startLine) ↔ bounds.IllOrdered ∧ ¬ bounds.Overlooked := by
  rw [illOrdered_of_some starts, overlooked_iff starts, stop, start, ends]
  simp only [Position.Before, Option.getD_some]
  -- The end that is checked is that of the range, unless its character is left out.
  cases bounds.endCharacter with
  | none =>
      simp only [Option.getD_none, reduceCtorEq, false_and, exists_false, and_false, false_or,
        true_and, not_and]
      omega
  | some character =>
      simp only [Option.getD_some, reduceCtorEq, false_and, and_false, false_or, not_false_eq_true,
        and_true]

/-- Without a last line no bounds out of order are noticed. -/
theorem overlooked_of_unlined (starts : bounds.startLine = some startLine)
    (noLine : bounds.endLine = none) (disordered : bounds.IllOrdered) : bounds.Overlooked := by
  rw [illOrdered_of_some starts, stop, start, noLine, Position.Before] at disordered
  rw [overlooked_iff starts, noLine]
  cases ends : bounds.endCharacter with
  | none =>
      simp only [ends, Option.getD_none] at disordered
      exact .inr ⟨rfl, rfl, by omega⟩
  | some character =>
      simp only [ends, Option.getD_some, Option.getD_none] at disordered
      exact .inl ⟨rfl, character, rfl, by omega⟩

/-- Bounds out of order are refused, unless they are overlooked. -/
theorem check_of_noticed (disordered : bounds.IllOrdered) (noticed : ¬ bounds.Overlooked) :
    bounds.check = .refuse (.broken bounds.objection) := by
  cases starts : bounds.startLine with
  | none =>
      obtain ⟨endLine, ends⟩ :=
        Option.ne_none_iff_exists'.mp ((illOrdered_of_none starts).mp disordered)
      rw [check, starts, ends, objection, if_pos starts]
  | some startLine =>
      cases ends : bounds.endLine with
      | none => exact absurd (overlooked_of_unlined starts ends disordered) noticed
      | some endLine =>
          rw [check_of_lines starts ends]
          exact if_pos ((before_iff_noticed starts ends).mpr ⟨disordered, noticed⟩)

theorem check_of_unnoticed (unnoticed : ¬ (bounds.IllOrdered ∧ ¬ bounds.Overlooked)) :
    bounds.check = .valid bounds := by
  cases starts : bounds.startLine with
  | none =>
      cases ends : bounds.endLine with
      | none => rw [check, starts, ends]
      | some endLine =>
          exfalso
          apply unnoticed
          constructor
          · rw [illOrdered_of_none starts, ends]
            simp
          · intro overlooked
            obtain ⟨startLine, given⟩ := overlooked.starts
            rw [starts] at given
            cases given
  | some startLine =>
      cases ends : bounds.endLine with
      | none => rw [check, starts, ends]
      | some endLine =>
          rw [check_of_lines starts ends]
          exact if_neg fun before => unnoticed ((before_iff_noticed starts ends).mp before)

end Bounds

/-! ## The call -/

namespace SelectionInput

/-- The selection that the members of an object describe, each of them acceptable on its own. -/
def parts (value : Json) : Checked SelectionInput :=
  SelectionInput.mk <$> DocumentInput.ofMembers value <*>
    (Bounds.mk <$> optional "start_line" (nullable natural) none (value.get? "start_line")
      <*> optional "start_character" natural 0 (value.get? "start_character")
      <*> optional "end_line" (nullable natural) none (value.get? "end_line")
      <*> optional "end_character" (nullable natural) none (value.get? "end_character"))

theorem ofMembers_eq (value : Json) :
    ofMembers value = (parts value).andThen fun input =>
      (fun bounds => { input with bounds }) <$> input.bounds.check := rfl

variable {value : Json} {input : SelectionInput}

theorem ofMembers_of_check (given : parts value = .valid input)
    (checked : input.bounds.check = .valid input.bounds) : ofMembers value = .valid input := by
  rw [ofMembers_eq, given]
  change (fun bounds => { input with bounds }) <$> input.bounds.check = _
  rw [checked]
  rfl

end SelectionInput

namespace Session

variable {session : Session} {number : Nat} {arguments : Json} {input : SelectionInput}

/-- A call ends with a fault, and nothing else happens. -/
def refusal (session : Session) (number : Nat) (fault : Fault) : Session × List SessionAct :=
  (session, [.finish number (.error fault)])

theorem step_of_refused {issues : List Issue}
    (refused : SelectionInput.ofMembers arguments = .refused issues) :
    session.step (.call number .analyzeSelection arguments) =
      session.refusal number (.failure (.invalidInput .selection issues)) := by
  change session.callTool number .analyzeSelection arguments = _
  simp only [callTool, perform, analyzeSelection, refused]
  rfl

/-- A selection that is accepted is analysed if it has a range. -/
theorem step_of_accepted {document : Document}
    (accepted : SelectionInput.ofMembers arguments = .valid input)
    (isOpen : Keyed.get? session.documents input.document.uri = some document) :
    session.step (.call number .analyzeSelection arguments) =
      match input.bounds.range with
      | .valid range => session.atDesk (session.desk.analyzeSelection session.timeline.now
          ⟨number, input.document.uri⟩ document.text range)
      | .refused issues => session.refusal number (.refused ⟨"TextRange", issues⟩) := by
  change session.callTool number .analyzeSelection arguments = _
  simp only [callTool, perform, analyzeSelection, accepted, InputKind.accept, bind, Except.bind,
    require_eq_ok_iff.mpr isOpen]
  cases input.bounds.range with
  | valid range => rfl
  | refused issues => rfl

/-- What becomes of a call that selects a part of a document. -/
structure SelectionAnswer (session : Session) (number : Nat) (arguments : Json)
    (input : SelectionInput) : Prop where
  /-- Bounds in order are accepted, and what they select of an open document is analysed. -/
  ordered : ¬ input.bounds.IllOrdered →
    SelectionInput.ofMembers arguments = .valid input ∧
    ∃ range, input.bounds.range = .valid range ∧
      ∀ document, Keyed.get? session.documents input.document.uri = some document →
        session.step (.call number .analyzeSelection arguments) =
          session.atDesk (session.desk.analyzeSelection session.timeline.now
            ⟨number, input.document.uri⟩ document.text range)
  /-- Bounds out of order are reported as soon as they are noticed. -/
  noticed : input.bounds.IllOrdered → ¬ input.bounds.Overlooked →
    session.step (.call number .analyzeSelection arguments) =
      session.refusal number
        (.failure (.invalidInput .selection [⟨.broken input.bounds.objection, []⟩]))
  /-- Bounds that are overlooked are accepted, and the call breaks on the range that they do not
  have. -/
  overlooked : input.bounds.Overlooked →
    input.bounds.IllOrdered ∧ SelectionInput.ofMembers arguments = .valid input ∧
    input.bounds.range = .refuse (.broken "range end precedes range start") ∧
    ∀ document, Keyed.get? session.documents input.document.uri = some document →
      session.step (.call number .analyzeSelection arguments) =
        session.refusal number
          (.refused ⟨"TextRange", [⟨.broken "range end precedes range start", []⟩]⟩)

/-- Arguments that are not acceptable each on its own are reported.  All others make a selection
that has a range, or is reported, or is overlooked; only the last ones make the call break. -/
theorem selections_in_order_or_overlooked (session : Session) (number : Nat) (arguments : Json) :
    (∀ issues, SelectionInput.parts arguments = .refused issues →
      session.step (.call number .analyzeSelection arguments) =
        session.refusal number (.failure (.invalidInput .selection issues))) ∧
    ∀ input, SelectionInput.parts arguments = .valid input →
      SelectionAnswer session number arguments input := by
  constructor
  · intro issues refused
    apply step_of_refused
    rw [SelectionInput.ofMembers_eq, refused]
    rfl
  · intro input given
    constructor
    · intro ordered
      have accepted := SelectionInput.ofMembers_of_check given
        (Bounds.check_of_unnoticed fun both => ordered both.1)
      obtain ⟨range, ranges⟩ := Bounds.range_of_ordered ordered
      refine ⟨accepted, range, ranges, ?_⟩
      intro document isOpen
      rw [step_of_accepted accepted isOpen, ranges]
    · intro disordered noticed
      apply step_of_refused
      rw [SelectionInput.ofMembers_eq, given]
      change (fun bounds => { input with bounds }) <$> input.bounds.check = _
      rw [Bounds.check_of_noticed disordered noticed]
      rfl
    · intro overlooked
      have accepted := SelectionInput.ofMembers_of_check given
        (Bounds.check_of_unnoticed fun both => both.2 overlooked)
      obtain ⟨startLine, starts⟩ := overlooked.starts
      have disordered := overlooked.illOrdered
      have ranges := Bounds.range_of_before starts disordered
      refine ⟨disordered, accepted, ranges, ?_⟩
      intro document isOpen
      rw [step_of_accepted accepted isOpen, ranges]
      rfl

/-- A selection that stops before it starts, without a last line. -/
def backwards : Json :=
  .obj [("uri", .str "u"), ("start_line", .int 0), ("start_character", .int 5),
    ("end_character", .int 3)]

/-- The law at work: the call with that selection of an open document breaks. -/
theorem selections_in_order_or_overlooked_backwards :
    let opened := (fresh.step (.call 0 .openDocument oneFunction)).1
    opened.step (.call 1 .analyzeSelection backwards) = opened.refusal 1
      (.refused ⟨"TextRange", [⟨.broken "range end precedes range start", []⟩]⟩) := by
  intro opened
  let input : SelectionInput := ⟨⟨"u", ""⟩, ⟨some 0, 5, none, some 3⟩⟩
  have given : SelectionInput.parts backwards = .valid input := by rfl
  have overlooked : input.bounds.Overlooked := .unlined rfl rfl rfl (by decide)
  obtain ⟨document, isOpen⟩ : ∃ document, Keyed.get? opened.documents "u" = some document :=
    Option.isSome_iff_exists.mp (by decide +kernel)
  obtain ⟨_, _, _, breaks⟩ :=
    ((selections_in_order_or_overlooked opened 1 backwards).2 input given).overlooked overlooked
  exact breaks document isOpen

end Session

end CodeComplexity
