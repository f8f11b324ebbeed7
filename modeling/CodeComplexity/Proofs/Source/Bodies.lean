import CodeComplexity.Proofs.Source.Lines
import CodeComplexity.Proofs.Source.Nesting
import Mathlib.Data.List.Infix

/-!
# Bodies of functions

Where a function's body closes, told by the count of braces alone.  Read from the function's first
line on, the count comes back to zero for the first time after it was positive: the body closes on
that line if the count was never negative before, and if no line above the first opening brace ends
with a semicolon.  The functions with such a body are listed from top to bottom, and no others are.
-/

namespace CodeComplexity.Source

open Text

variable {lines rest : List Line} {line : Line} {depth below number first last : Nat}

/-- The last character of a line, trailing blank space apart, is a semicolon. -/
def EndsWithSemicolon (line : Line) : Prop :=
  ∃ front trailing, line = front ++ .char ';' :: trailing ∧ allBlank trailing = true

theorem endsStatement_iff : endsStatement line = true ↔ EndsWithSemicolon line := by
  simp only [endsStatement, trimEnd, beq_iff_eq, List.getLast?_reverse]
  constructor
  · intro isLast
    obtain ⟨back, dropped⟩ := List.head?_eq_some_iff.mp isLast
    have parts : line.reverse.takeWhile isBlank ++ line.reverse.dropWhile isBlank = line.reverse :=
      List.takeWhile_append_dropWhile
    rw [dropped] at parts
    refine ⟨back.reverse, (line.reverse.takeWhile isBlank).reverse, ?_, ?_⟩
    · rw [← List.reverse_inj]
      simpa using parts.symm
    · simp [allBlank]
  · rintro ⟨front, trailing, rfl, blank⟩
    have notBlank : isBlank (.char ';') = false := by decide
    simp only [allBlank, List.all_eq_true] at blank
    simp only [List.reverse_append, List.reverse_cons, List.append_assoc]
    rw [List.dropWhile_append_of_pos (by simpa using blank)]
    simp [notBlank]

/-- Read from the first line on, the count of braces comes back to zero on the line so many below
it. -/
def ReturnsOn (lines : List Line) (below : Nat) : Prop :=
  ∃ line read, lines[below]? = some line ∧ read <+: line ∧ read ≠ [] ∧
    ReturnsToZero ((lines.take below).flatten ++ read)

/-- The lines begin with a statement that ends before there is any brace. -/
def Blockless (lines : List Line) : Prop :=
  ∃ number line, lines[number]? = some line ∧ EndsWithSemicolon line ∧
    ∀ upper ∈ lines.take (number + 1), .char '{' ∉ upper ∧ .char '}' ∉ upper

/-- The lines begin with a statement whose braces are not closed: their count never comes back to
zero, or it goes below zero before. -/
structure Unclosed (lines : List Line) : Prop where
  never : ∀ below, ¬ ReturnsOn lines below
  not_blockless : ¬ Blockless lines

/-- The count is back at zero with the first closing brace that meets just one open brace. -/
theorem returnsOn_iff :
    ReturnsOn lines below ↔
      ∃ line front, lines[below]? = some line ∧ front ++ [.char '}'] <+: line ∧
        LineEnd.after 0 ((lines.take below).flatten ++ front) = .running 1 := by
  constructor
  · rintro ⟨line, read, listed, isFront, notEmpty, returns⟩
    obtain ⟨front, c, rfl⟩ := (List.eq_nil_or_concat read).resolve_left notEmpty
    obtain ⟨_, same, meets⟩ := returnsToZero_iff.mp returns
    rw [List.concat_eq_append, ← List.append_assoc] at same
    obtain ⟨rfl, isLast⟩ := List.append_inj' same rfl
    obtain rfl := List.singleton_inj.mp isLast
    exact ⟨line, front, listed, List.concat_eq_append ▸ isFront, meets⟩
  · rintro ⟨line, front, listed, isFront, meets⟩
    refine ⟨line, front ++ [.char '}'], listed, isFront, by simp, ?_⟩
    rw [← List.append_assoc]
    exact returnsToZero_iff.mpr ⟨_, rfl, meets⟩

namespace Body

theorem lower_eq_blockless {body : Body} : body.lower = .blockless ↔ body = .blockless := by
  cases body <;> simp [lower]

/-- A body closes on the line whose closing brace is the first to meet just one open brace, unless a
line before ends the statement while nothing is open. -/
theorem scan_eq_closes_iff :
    scan depth lines = .closes below ↔
      (∃ line front, lines[below]? = some line ∧ front ++ [.char '}'] <+: line ∧
        LineEnd.after depth ((lines.take below).flatten ++ front) = .running 1) ∧
      ∀ number < below, ∀ line, lines[number]? = some line →
        LineEnd.after depth (lines.take (number + 1)).flatten = .running 0 →
        endsStatement line = false := by
  induction lines generalizing depth below with
  | nil => simp [scan]
  | cons line rest ih =>
      cases below with
      | zero => simp [scan_cons_eq_closes, LineEnd.after_eq_closed_iff]
      | succ below =>
          cases reading : LineEnd.after depth line with
          | closed => simp [scan_cons_eq_closes, LineEnd.after_append, reading]
          | unbalanced => simp [scan_cons_eq_closes, LineEnd.after_append, reading]
          | running inside =>
              -- Line zero has its own condition; the lines below it are those of the rest.
              have here : (∀ other, (line :: rest)[0]? = some other →
                  LineEnd.after depth ((line :: rest).take (0 + 1)).flatten = .running 0 →
                  endsStatement other = false) ↔ (inside = 0 → endsStatement line = false) := by
                simp [reading]
              have goesOn : scan depth (line :: rest) = .closes (below + 1) ↔
                  (inside = 0 → endsStatement line = false) ∧ scan inside rest = .closes below := by
                simp [scan_cons_eq_closes, reading]
              rw [goesOn, ih, Nat.forall_lt_succ_left, here, and_left_comm]
              simp only [List.getElem?_cons_succ, List.take_succ_cons, List.flatten_cons,
                List.append_assoc, LineEnd.after_append_of_running reading]

/-- There is no body if a line ends the statement while nothing is open. -/
theorem scan_eq_blockless_iff :
    scan depth lines = .blockless ↔
      ∃ number line, lines[number]? = some line ∧ endsStatement line = true ∧
        LineEnd.after depth (lines.take (number + 1)).flatten = .running 0 := by
  induction lines generalizing depth with
  | nil => simp [scan]
  | cons line rest ih =>
      rw [scan]
      cases reading : LineEnd.after depth line with
      | closed => simp [LineEnd.after_append, reading]
      | unbalanced => simp [LineEnd.after_append, reading]
      | running inside =>
          rw [← Nat.or_exists_add_one]
          simp only [List.getElem?_cons_zero, List.getElem?_cons_succ, List.take_succ_cons,
            List.flatten_cons, LineEnd.after_append_of_running reading]
          split
          · next ends =>
            simp only [Bool.and_eq_true, decide_eq_true_eq] at ends
            simp [ends, LineEnd.after]
          · next goesOn =>
            have running : ¬ (endsStatement line = true ∧ inside = 0) := by
              simpa [and_comm] using goesOn
            simp [lower_eq_blockless, ih, running, LineEnd.after]

theorem ofLines_eq_blockless_iff : ofLines lines = .blockless ↔ Blockless lines := by
  simp only [ofLines, scan_eq_blockless_iff, Blockless, LineEnd.after_zero_eq_running_zero_iff,
    endsStatement_iff, List.mem_flatten, not_exists, not_and, imp_and, forall_and]

/-- A body closes where the count of braces is back at zero, unless there is no body. -/
theorem ofLines_eq_closes_iff :
    ofLines lines = .closes below ↔ ReturnsOn lines below ∧ ¬ Blockless lines := by
  rw [← ofLines_eq_blockless_iff, returnsOn_iff]
  constructor
  · intro closes
    exact ⟨(scan_eq_closes_iff.mp closes).1, by simp [closes]⟩
  · rintro ⟨returns, hasBody⟩
    refine scan_eq_closes_iff.mpr ⟨returns, fun number _ line listed silent => ?_⟩
    apply Bool.eq_false_iff.mpr
    intro ends
    exact hasBody (scan_eq_blockless_iff.mpr ⟨number, line, listed, ends, silent⟩)

/-- A body is malformed if it is neither closed nor absent. -/
theorem ofLines_eq_malformed_iff : ofLines lines = .malformed ↔ Unclosed lines := by
  constructor
  · intro malformed
    have notBlockless : ¬ Blockless lines := by simp [← ofLines_eq_blockless_iff, malformed]
    refine ⟨fun below returns => ?_, notBlockless⟩
    have closes := ofLines_eq_closes_iff.mpr ⟨returns, notBlockless⟩
    simp [malformed] at closes
  · rintro ⟨never, notBlockless⟩
    cases body : ofLines lines with
    | closes below => exact absurd (ofLines_eq_closes_iff.mp body).1 (never below)
    | blockless => exact absurd (ofLines_eq_blockless_iff.mp body) notBlockless
    | malformed => rfl

end Body

/-! ## The listed functions -/

/-- The body that the lines from a function's start on hold is closed so many lines below. -/
structure HasBody (lines : List Line) (below : Nat) : Prop where
  returns : ReturnsOn lines below
  /-- None of the lines above the one that holds the first opening brace ends a statement. -/
  continues : ∀ number line, lines[number]? = some line →
    (∀ upper ∈ lines.take (number + 1), .char '{' ∉ upper) → ¬ EndsWithSemicolon line

/-- A line starts a function, and the body that belongs to it closes on another line. -/
structure FunctionLines (lines : List Line) (first last : Nat) : Prop where
  ordered : first ≤ last
  starts : ∃ line, lines[first]? = some line ∧ isFunctionStart line = true
  body : HasBody (lines.drop first) (last - first)

/-- The lines above the first opening brace hold no closing brace either. -/
theorem ReturnsOn.closing_not_mem (returns : ReturnsOn lines below)
    (noOpening : ∀ upper ∈ lines.take (number + 1), .char '{' ∉ upper) :
    ∀ upper ∈ lines.take (number + 1), .char '}' ∉ upper := by
  obtain ⟨line, read, listed, isFront, -, counted⟩ := returns
  have unopened : .char '{' ∉ (lines.take (number + 1)).flatten := by
    simpa [List.mem_flatten] using noOpening
  -- The closing line comes after an opening brace, so it lies below these lines.
  have above : number + 1 ≤ below := by
    refine Nat.le_of_not_lt fun reaches => ?_
    obtain ⟨part, isPart, opened⟩ := counted.opened
    have through : (lines.take below).flatten ++ read <+: (lines.take (below + 1)).flatten := by
      simpa [List.take_add_one, listed, List.prefix_append_right_inj] using isFront
    have within := through.trans (List.IsPrefix.flatten (List.take_prefix_take_left reaches))
    have := braceCount_of_no_opening fun member => unopened (within.mem (isPart.mem member))
    omega
  have isRead : (lines.take (number + 1)).flatten <+: (lines.take below).flatten ++ read :=
    (List.IsPrefix.flatten (List.take_prefix_take_left above)).trans (List.prefix_append _ _)
  have nonneg := counted.never_negative _ isRead
  rw [braceCount_of_no_opening unopened] at nonneg
  have unclosed : .char '}' ∉ (lines.take (number + 1)).flatten := by
    rw [← List.count_eq_zero]
    omega
  simpa [List.mem_flatten] using unclosed

/-- Since the count is never negative, the first brace is an opening one. -/
theorem hasBody_iff : HasBody lines below ↔ ReturnsOn lines below ∧ ¬ Blockless lines := by
  constructor
  · rintro ⟨returns, continues⟩
    refine ⟨returns, ?_⟩
    rintro ⟨number, line, listed, ends, noBrace⟩
    exact continues number line listed (fun upper member => (noBrace upper member).1) ends
  · rintro ⟨returns, hasBlock⟩
    refine ⟨returns, fun number line listed noOpening ends => hasBlock ?_⟩
    have noClosing := returns.closing_not_mem noOpening
    exact ⟨number, line, listed, ends, fun upper member =>
      ⟨noOpening upper member, noClosing upper member⟩⟩

theorem functionAt_iff :
    FunctionAt lines number below ↔ FunctionLines lines number (number + below) := by
  constructor
  · rintro ⟨starts, closes⟩
    refine ⟨Nat.le_add_right number below, starts, ?_⟩
    rw [Nat.add_sub_cancel_left, hasBody_iff]
    exact Body.ofLines_eq_closes_iff.mp closes
  · rintro ⟨_, starts, body⟩
    rw [Nat.add_sub_cancel_left, hasBody_iff] at body
    exact ⟨starts, Body.ofLines_eq_closes_iff.mpr body⟩

theorem le_startLine_of_mem_spansFrom {span : FunctionSpan}
    (listed : span ∈ spansFrom first lines) : first ≤ span.startLine := by
  obtain ⟨number, below, -, rfl⟩ := mem_spansFrom_iff.mp listed
  exact Nat.le_add_right first number

theorem pairwise_spansFrom :
    (spansFrom first lines).Pairwise fun span later => span.startLine < later.startLine := by
  induction lines generalizing first with
  | nil => exact .nil
  | cons line rest ih =>
      rw [spansFrom]
      split
      · split
        · apply List.Pairwise.cons
          · intro later listed
            exact Nat.lt_of_succ_le (le_startLine_of_mem_spansFrom listed)
          · exact ih
        · exact ih
        · exact ih
      · exact ih

/-- The listed functions are just those whose braces close, from top to bottom, each with the text
of its lines. -/
theorem functions_listed_in_order (text : LooseText) :
    (locateAll text).Pairwise (fun span later => span.startLine < later.startLine) ∧
    (∀ first last, FunctionLines (splitLines text.points) first last ↔
      ∃ span ∈ locateAll text, span.startLine = first ∧ span.endLine = last) ∧
    ∀ span ∈ locateAll text, span.text.points =
      [.char '\n'].intercalate (((splitLines text.points).drop span.startLine).take
        (span.endLine + 1 - span.startLine)) := by
  refine ⟨pairwise_spansFrom, fun first last => ⟨fun function => ?_, ?_⟩, ?_⟩
  · obtain ⟨below, rfl⟩ := Nat.exists_eq_add_of_le function.ordered
    exact ⟨_, mem_locateAll_iff.mpr ⟨first, below, functionAt_iff.mpr function, rfl⟩, rfl, rfl⟩
  · rintro ⟨span, listed, rfl, rfl⟩
    obtain ⟨number, below, there, rfl⟩ := mem_locateAll_iff.mp listed
    exact functionAt_iff.mp there
  · intro span listed
    obtain ⟨number, below, there, rfl⟩ := mem_locateAll_iff.mp listed
    simp only [FunctionSpan.ofLines]
    rw [joinLines_eq_intercalate]
    congr 2
    omega

/-- A statement without a body, a function whose body opens a line below its start, with one more
brace behind the last one, and a function that is never closed. -/
def unevenFunctions : LooseText :=
  "let f = x => x;\n\x7d\nlet g = async () =>\n\x7b a; \x7d \x7d\nfunction h() \x7b"

/-- Of the three only the second one is listed, with both of its lines. -/
theorem functions_listed_in_order_uneven :
    FunctionLines (splitLines unevenFunctions.points) 2 3 ∧
    (∀ last, ¬ FunctionLines (splitLines unevenFunctions.points) 4 last) ∧
    ∃ span ∈ locateAll unevenFunctions, span.text.points =
      [.char '\n'].intercalate [spelled "let g = async () =>", spelled "\x7b a; \x7d \x7d"] := by
  have lines : (locateAll unevenFunctions).map (fun span => (span.startLine, span.endLine)) =
      [(2, 3)] := by
    decide +kernel
  obtain ⟨-, law, texts⟩ := functions_listed_in_order unevenFunctions
  obtain ⟨span, member, starts, ends⟩ :
      ∃ span ∈ locateAll unevenFunctions, span.startLine = 2 ∧ span.endLine = 3 := by
    have member : (2, 3) ∈ (locateAll unevenFunctions).map fun span =>
        (span.startLine, span.endLine) := by simp [lines]
    simpa using member
  refine ⟨(law 2 3).mpr ⟨span, member, starts, ends⟩, fun last function => ?_, span, member, ?_⟩
  · obtain ⟨other, listed, begins, -⟩ := (law 4 last).mp function
    have mapped := List.mem_map_of_mem (f := fun span => (span.startLine, span.endLine)) listed
    rw [lines] at mapped
    simp [begins] at mapped
  · rw [texts span member, starts, ends]
    decide +kernel

end CodeComplexity.Source
