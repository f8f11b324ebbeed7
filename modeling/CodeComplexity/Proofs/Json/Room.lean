import CodeComplexity.Json.Reader

/-!
# Room for nested values

How deeply values may be nested differs from call to call, but it matters only where the reader
gives up: a text that is read within some room is read in the same way within more, so that it holds
one value wherever it is read.
-/

namespace CodeComplexity.Json

open Text

variable {α : Type} {room more fuel : Nat} {text : List CodePoint} {value : Json}

/-- A reading has not been given up for want of room. -/
def Reading.Fits (reading : Reading α) : Prop :=
  ∀ container, reading ≠ .error (.tooDeep container)

/-- Within more room, the reader at work with some fuel does the same as long as it does not give
up. -/
structure Steady (room more fuel : Nat) : Prop where
  value (text : List CodePoint) : (readValue room fuel text).Fits →
    readValue more fuel text = readValue room fuel text
  items (done : List Json) (text : List CodePoint) : (readItems room fuel done text).Fits →
    readItems more fuel done text = readItems room fuel done text
  members (done : Members) (text : List CodePoint) : (readMembers room fuel done text).Fits →
    readMembers more fuel done text = readMembers room fuel done text

theorem readValue_steady (steady : Steady (room - 1) (more - 1) fuel) (le : room ≤ more)
    (fits : (readValue room (fuel + 1) text).Fits) :
    readValue more (fuel + 1) text = readValue room (fuel + 1) text := by
  cases text with
  | nil => rfl
  | cons point rest =>
      rw [readValue] at fits ⊢
      rw [readValue]
      split
      · rfl
      · split
        · next quoted opens =>
          rw [if_neg quoted, if_pos opens] at fits
          split at fits
          · exact absurd rfl (fits _)
          · next roomy =>
            rw [if_neg roomy, if_neg (by omega : more ≠ 0)]
            split at fits
            · rfl
            · exact steady.members _ _ fits
        · split
          · next quoted braced opens =>
            rw [if_neg quoted, if_neg braced, if_pos opens] at fits
            split at fits
            · exact absurd rfl (fits _)
            · next roomy =>
              rw [if_neg roomy, if_neg (by omega : more ≠ 0)]
              split at fits
              · rfl
              · exact steady.items _ _ fits
          · rfl

theorem readItems_steady (steady : Steady room more fuel) {done : List Json}
    (fits : (readItems room (fuel + 1) done text).Fits) :
    readItems more (fuel + 1) done text = readItems room (fuel + 1) done text := by
  rw [readItems] at fits ⊢
  rw [readItems]
  have same : readValue more fuel text = readValue room fuel text := by
    refine steady.value text fun container gaveUp => ?_
    rw [gaveUp] at fits
    exact fits container rfl
  rw [same]
  split
  · rfl
  · next read =>
    rw [read] at fits
    dsimp only at fits
    split
    · rfl
    · next comma =>
      rw [comma] at fits
      exact steady.items _ _ fits
    · rfl

theorem readMembers_steady (steady : Steady room more fuel) {done : Members}
    (fits : (readMembers room (fuel + 1) done text).Fits) :
    readMembers more (fuel + 1) done text = readMembers room (fuel + 1) done text := by
  rw [readMembers.eq_def] at fits ⊢
  rw [readMembers.eq_def]
  dsimp only at fits ⊢
  split
  · split
    · rfl
    · next key afterKey named =>
      simp only [named] at fits
      split
      · next afterColon colon =>
        simp only [colon] at fits
        have same : readValue more fuel (skipSpace afterColon) =
            readValue room fuel (skipSpace afterColon) := by
          refine steady.value _ fun container gaveUp => ?_
          rw [gaveUp] at fits
          exact fits container rfl
        rw [same]
        split
        · rfl
        · next read =>
          rw [read] at fits
          dsimp only at fits
          split
          · rfl
          · next comma =>
            rw [comma] at fits
            exact steady.members _ _ fits
          · rfl
      · rfl
  · rfl

/-- The reader does the same within more room, unless it gives up. -/
theorem steady (le : room ≤ more) : Steady room more fuel := by
  induction fuel generalizing room more with
  | zero => exact ⟨fun _ _ => rfl, fun _ _ _ => rfl, fun _ _ _ => rfl⟩
  | succ fuel ih =>
      exact ⟨fun _ => readValue_steady (ih (by omega)) le, fun _ _ => readItems_steady (ih le),
        fun _ _ => readMembers_steady (ih le)⟩

/-- A text that is not given up within some room is read in the same way within more. -/
theorem read_of_le (le : room ≤ more)
    (fits : ∀ container, read room text ≠ .error (.tooDeep container)) :
    read more text = read room text := by
  have same : readText more text = readText room text := by
    have reads : (readValue room (2 * text.length + 2) (skipSpace text)).Fits := by
      intro container gaveUp
      refine fits container ?_
      rw [read, readText, gaveUp]
    rw [readText, readText, (steady le).value _ reads]
  rw [read, read, same]

/-- A text holds at most one value: wherever it is not given up, it is read as that value. -/
theorem read_eq_ok_of_fits (held : read more text = .ok value)
    (fits : ∀ container, read room text ≠ .error (.tooDeep container)) :
    read room text = .ok value := by
  have top : read (max room more) text = .ok value := by
    rw [read_of_le (Nat.le_max_right room more) (by simp [held]), held]
  rw [← read_of_le (Nat.le_max_left room more) fits, top]

end CodeComplexity.Json
