import CodeComplexity.Proofs.Source.Lines
import CodeComplexity.Source.Selection
import Mathlib.Algebra.GroupWithZero.Nat

/-!
# Selections are slices

What a range selects is a slice of the lines put together, from the offset of its start to the
offset of its end.  A place beyond the end of its line counts as the end of that line, and a place
below the text as the end of the text.  So two ranges that meet select the two parts of what the
range over both of them selects.
-/

namespace CodeComplexity.Source

open Text

variable {lines rest : List Line} {line : Line} {number stopLine character stopCharacter : Nat}
  {start stop : Position}

/-! ## Offsets -/

/-- How many characters stand in front of a place in the lines put together. -/
def offset (lines : List Line) (position : Position) : Nat :=
  match lines[position.line]? with
  | some line =>
    ((lines.take position.line).map fun above => above.length + 1).sum
      + min position.character line.length
  | none => ([.char '\n'].intercalate lines).length

theorem joinLines_cons (more : rest ≠ []) :
    joinLines (line :: rest) = line ++ .char '\n' :: joinLines rest := by
  obtain ⟨next, others, rfl⟩ := List.exists_cons_of_ne_nil more
  rfl

theorem offset_cons_zero : offset (line :: rest) ⟨0, character⟩ = min character line.length := by
  simp [offset]

theorem offset_cons_succ (more : rest ≠ []) :
    offset (line :: rest) ⟨number + 1, character⟩ =
      line.length + 1 + offset rest ⟨number, character⟩ := by
  simp only [offset, List.getElem?_cons_succ]
  split
  · rw [List.take_succ_cons, List.map_cons, List.sum_cons, Nat.add_assoc]
  · rw [← joinLines_eq_intercalate, ← joinLines_eq_intercalate, joinLines_cons more,
      List.length_append, List.length_cons]
    omega

theorem offset_singleton_succ : offset [line] ⟨number + 1, character⟩ = line.length := by
  simp [offset]

theorem offset_le_length (lines : List Line) (position : Position) :
    offset lines position ≤ (joinLines lines).length := by
  obtain ⟨number, character⟩ := position
  induction lines generalizing number with
  | nil => simp [offset]
  | cons line rest ih =>
      rcases eq_or_ne rest [] with rfl | more
      · cases number with
        | zero =>
            rw [offset_cons_zero]
            exact Nat.min_le_right _ _
        | succ number =>
            rw [offset_singleton_succ]
            exact Nat.le_refl _
      · rw [joinLines_cons more, List.length_append, List.length_cons]
        cases number with
        | zero =>
            rw [offset_cons_zero]
            omega
        | succ number =>
            rw [offset_cons_succ more]
            have := ih number
            omega

/-- A place that does not come before another one has no smaller offset. -/
theorem offset_le_offset (ordered : ¬ stop.Before start) :
    offset lines start ≤ offset lines stop := by
  obtain ⟨number, character⟩ := start
  obtain ⟨stopLine, stopCharacter⟩ := stop
  simp only [Position.Before] at ordered
  induction lines generalizing number stopLine with
  | nil => simp [offset]
  | cons line rest ih =>
      cases number with
      | zero =>
          rw [offset_cons_zero]
          cases stopLine with
          | zero =>
              rw [offset_cons_zero]
              omega
          | succ stopLine =>
              rcases eq_or_ne rest [] with rfl | more
              · rw [offset_singleton_succ]
                omega
              · rw [offset_cons_succ more]
                omega
      | succ number =>
          cases stopLine with
          | zero => omega
          | succ stopLine =>
              rcases eq_or_ne rest [] with rfl | more
              · simp only [offset_singleton_succ, Nat.le_refl]
              · rw [offset_cons_succ more, offset_cons_succ more]
                exact Nat.add_le_add_left (ih number stopLine (by omega)) _

/-! ## Selections -/

/-- Within more than one line, a place below the first one is clamped among the others. -/
theorem clampStop_cons_succ (more : rest ≠ []) :
    clampStop (line :: rest) ⟨stopLine + 1, stopCharacter⟩ =
      ⟨(clampStop rest ⟨stopLine, stopCharacter⟩).line + 1,
        (clampStop rest ⟨stopLine, stopCharacter⟩).character⟩ := by
  have some_line : 0 < rest.length := List.length_pos_iff.mpr more
  simp only [clampStop, List.length_cons, Nat.add_lt_add_iff_right]
  split
  · rfl
  · rw [List.getLast?_cons, List.getLast?_eq_some_getLast more]
    simp only [Option.getD_some, Position.mk.injEq, and_true]
    omega

/-- What lies between the start of the lines and a place. -/
theorem selectLines_zero (stop : Position) (ordered : ¬ stop.Before ⟨0, 0⟩)
    (some_line : lines ≠ []) :
    selectLines lines ⟨⟨0, 0⟩, stop, ordered⟩ =
      joinLines (lines.take (clampStop lines stop).line ++
        [((lines[(clampStop lines stop).line]?).getD []).take
          (clampStop lines stop).character]) := by
  obtain ⟨line, rest, rfl⟩ := List.exists_cons_of_ne_nil some_line
  simp only [selectLines]
  generalize clampStop (line :: rest) stop = clamped
  obtain ⟨number, character⟩ := clamped
  cases number with
  | zero => simp [joinLines]
  | succ number => simp

/-- What lies between a place on the first line and one below. -/
theorem selectLines_cons_zero_succ (more : rest ≠ [])
    (ordered : ¬ Position.Before ⟨stopLine + 1, stopCharacter⟩ ⟨0, character⟩)
    (onward : ¬ Position.Before ⟨stopLine, stopCharacter⟩ ⟨0, 0⟩) :
    selectLines (line :: rest) ⟨⟨0, character⟩, ⟨stopLine + 1, stopCharacter⟩, ordered⟩ =
      line.drop character ++
        .char '\n' :: selectLines rest ⟨⟨0, 0⟩, ⟨stopLine, stopCharacter⟩, onward⟩ := by
  rw [selectLines_zero _ _ more]
  simp only [selectLines, clampStop_cons_succ more]
  rw [← joinLines_cons (by simp)]
  simp

/-- Below the first line everything is selected as if that line were not there. -/
theorem selectLines_cons_succ (more : rest ≠ [])
    (ordered : ¬ Position.Before ⟨stopLine + 1, stopCharacter⟩ ⟨number + 1, character⟩)
    (onward : ¬ Position.Before ⟨stopLine, stopCharacter⟩ ⟨number, character⟩) :
    selectLines (line :: rest)
        ⟨⟨number + 1, character⟩, ⟨stopLine + 1, stopCharacter⟩, ordered⟩ =
      selectLines rest ⟨⟨number, character⟩, ⟨stopLine, stopCharacter⟩, onward⟩ := by
  simp only [selectLines, clampStop_cons_succ more]
  simp

theorem drop_min {front : List CodePoint} {count limit : Nat} (within : front.length ≤ limit) :
    front.drop (min count limit) = front.drop count :=
  List.drop_eq_drop_iff.mpr (by omega)

/-- What stands in front of a place on the first line. -/
theorem take_min_length_append (line back : List CodePoint) (count : Nat) :
    (line ++ back).take (min count line.length) = line.take count := by
  rw [List.take_append_of_le_length (Nat.min_le_right _ _)]
  exact List.take_eq_take_iff.mpr (by omega)

theorem take_below_append (line back : List CodePoint) (count : Nat) :
    (line ++ .char '\n' :: back).take (line.length + 1 + count) =
      line ++ .char '\n' :: back.take count := by
  rw [List.take_append, List.take_of_length_le (by omega), Nat.add_assoc, Nat.add_sub_cancel_left,
    Nat.add_comm 1 count, List.take_succ_cons]

theorem selectLines_singleton (line : Line) (range : TextRange) :
    selectLines [line] range =
      (line.take (offset [line] range.stop)).drop (offset [line] range.start) := by
  obtain ⟨⟨number, character⟩, ⟨stopLine, stopCharacter⟩, ordered⟩ := range
  simp only [Position.Before] at ordered
  cases number with
  | zero =>
      rw [offset_cons_zero]
      cases stopLine with
      | zero =>
          have front := take_min_length_append line [] stopCharacter
          rw [List.append_nil] at front
          rw [offset_cons_zero, front, drop_min (List.length_take_le' _ _)]
          simp [selectLines, clampStop]
      | succ stopLine =>
          rw [offset_singleton_succ, List.take_length, drop_min (Nat.le_refl _)]
          simp [selectLines, clampStop]
  | succ number =>
      cases stopLine with
      | zero => omega
      | succ stopLine => simp [offset_singleton_succ, selectLines]

/-- What a range selects lies between the offsets of its ends. -/
theorem selectLines_eq_slice (lines : List Line) (range : TextRange) :
    selectLines lines range =
      ((joinLines lines).take (offset lines range.stop)).drop (offset lines range.start) := by
  induction lines generalizing range with
  | nil => simp [selectLines, joinLines]
  | cons line rest ih =>
      rcases eq_or_ne rest [] with rfl | more
      · exact selectLines_singleton line range
      · obtain ⟨⟨number, character⟩, ⟨stopLine, stopCharacter⟩, ordered⟩ := range
        have given := ordered
        simp only [Position.Before] at given
        rw [joinLines_cons more]
        cases number with
        | zero =>
            rw [offset_cons_zero]
            cases stopLine with
            | zero =>
                rw [offset_cons_zero, take_min_length_append, drop_min (List.length_take_le' _ _)]
                simp [selectLines, clampStop]
            | succ stopLine =>
                have onward : ¬ Position.Before ⟨stopLine, stopCharacter⟩ ⟨0, 0⟩ := by
                  simp [Position.Before]
                rw [selectLines_cons_zero_succ more ordered onward, ih, offset_cons_succ more,
                  take_below_append, List.drop_append_of_le_length (Nat.min_le_right _ _),
                  drop_min (Nat.le_refl _)]
                obtain ⟨first, others, rfl⟩ := List.exists_cons_of_ne_nil more
                rw [offset_cons_zero, Nat.zero_min, List.drop_zero]
        | succ number =>
            cases stopLine with
            | zero => omega
            | succ stopLine =>
                have onward : ¬ Position.Before ⟨stopLine, stopCharacter⟩ ⟨number, character⟩ := by
                  simp only [Position.Before]
                  omega
                rw [selectLines_cons_succ more ordered onward, ih, offset_cons_succ more,
                  offset_cons_succ more, take_below_append, ← List.drop_drop]
                simp

/-! ## The law -/

theorem Position.not_before_trans {first second third : Position} (front : ¬ second.Before first)
    (back : ¬ third.Before second) : ¬ third.Before first := by
  rw [Position.Before] at *
  omega

/-- Two slices that meet make up the slice over both. -/
theorem slice_append_slice {text : List CodePoint} {first second third : Nat}
    (front : first ≤ second)
    (back : second ≤ third) (within : third ≤ text.length) :
    (text.take second).drop first ++ (text.take third).drop second =
      (text.take third).drop first := by
  have inner : text.take second = (text.take third).take second := by
    rw [List.take_take, Nat.min_eq_left back]
  have enough : first ≤ ((text.take third).take second).length := by
    simp only [List.length_take]
    omega
  rw [inner, ← List.drop_append_of_le_length enough, List.take_append_drop]

/-- A range selects the slice of the joined lines from the offset of its start to the offset of its
end, and two ranges that meet select the two parts of what the range over both selects. -/
theorem selections_are_slices (text : LooseText) :
    (∀ range : TextRange, (extractText text (some range)).points =
      (([.char '\n'].intercalate (splitLines text.points)).take
        (offset (splitLines text.points) range.stop)).drop
          (offset (splitLines text.points) range.start)) ∧
    ∀ (first second third : Position) (front : ¬ second.Before first)
      (back : ¬ third.Before second),
      extractText text (some ⟨first, second, front⟩) ++
          extractText text (some ⟨second, third, back⟩) =
        extractText text (some ⟨first, third, Position.not_before_trans front back⟩) := by
  have slice (range : TextRange) := selectLines_eq_slice (splitLines text.points) range
  constructor
  · intro range
    rw [extractText, slice, joinLines_eq_intercalate]
  · intro first second third front back
    rw [extractText, extractText, extractText, LooseText.ext_iff, LooseText.points_append, slice,
      slice, slice,
      slice_append_slice (offset_le_offset front) (offset_le_offset back) (offset_le_length _ _)]

/-- Two lines with a carriage return between them, and an empty last line. -/
def twoLines : LooseText :=
  "ab\r\ncde\n"

/-- From beyond the end of the first line to a place on the second one, and from there to below the
text. -/
theorem selections_are_slices_beyond :
    extractText twoLines (some ⟨⟨0, 9⟩, ⟨1, 2⟩, by decide⟩) ++
      extractText twoLines (some ⟨⟨1, 2⟩, ⟨7, 0⟩, by decide⟩) = "\ncde\n" := by
  obtain ⟨slices, meets⟩ := selections_are_slices twoLines
  rw [meets ⟨0, 9⟩ ⟨1, 2⟩ ⟨7, 0⟩ (by decide) (by decide), LooseText.ext_iff, slices]
  decide +kernel

end CodeComplexity.Source
