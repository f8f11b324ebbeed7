import CodeComplexity.Source.Body
import Mathlib.Data.List.Induction

/-!
# Counting braces

The count of a text's braces is the number of opening ones less the number of closing ones.  Read
with no brace open, a text leaves as many open as it counts, provided that none of its front parts
counts below zero and none counts back to zero after a shorter one has counted above; and it closes
a body as soon as one of its front parts is the first to be back at zero.
-/

namespace CodeComplexity.Source

open Text

variable {text front back read : List CodePoint} {c : CodePoint} {depth inside : Nat}

/-- Opening braces less closing ones. -/
def braceCount (text : List CodePoint) : Int :=
  text.count (.char '{') - text.count (.char '}')

@[simp] theorem braceCount_nil : braceCount [] = 0 := rfl

@[simp] theorem braceCount_append :
    braceCount (front ++ back) = braceCount front + braceCount back := by
  simp only [braceCount, List.count_append]
  omega

@[simp] theorem braceCount_opening : braceCount [.char '{'] = 1 := rfl

@[simp] theorem braceCount_closing : braceCount [.char '}'] = -1 := rfl

theorem braceCount_other (notOpening : c ≠ .char '{') (notClosing : c ≠ .char '}') :
    braceCount [c] = 0 := by
  simp [braceCount, notOpening, notClosing]

theorem braceCount_of_no_opening (noOpening : .char '{' ∉ text) :
    braceCount text = -(text.count (.char '}') : Int) := by
  simp [braceCount, List.count_eq_zero.mpr noOpening]

/-- No front part of a text counts below zero, and once one has counted above zero none counts back
to zero. -/
def StaysOpen (text : List CodePoint) : Prop :=
  ∀ read, read <+: text →
    0 ≤ braceCount read ∧ ∀ earlier, earlier <+: read → 0 < braceCount earlier → 0 < braceCount read

/-- With its last character, the count of a text's braces comes back to zero for the first time
after it was positive, and it never was negative before. -/
structure ReturnsToZero (text : List CodePoint) : Prop where
  zero : braceCount text = 0
  opened : ∃ read, read <+: text ∧ 0 < braceCount read
  first : ∀ read, read <+: text → read ≠ text →
    ∀ earlier, earlier <+: read → 0 < braceCount earlier → braceCount read ≠ 0
  never_negative : ∀ read, read <+: text → 0 ≤ braceCount read

/-! ## Front parts -/

theorem StaysOpen.count_nonneg (stays : StaysOpen text) : 0 ≤ braceCount text :=
  (stays text (List.prefix_refl text)).1

theorem StaysOpen.positive (stays : StaysOpen text) (isFront : read <+: text)
    (opened : 0 < braceCount read) : 0 < braceCount text :=
  (stays text (List.prefix_refl text)).2 read isFront opened

theorem StaysOpen.of_front (stays : StaysOpen text) (isFront : front <+: text) : StaysOpen front :=
  fun read isRead => stays read (isRead.trans isFront)

/-- One more character keeps a body open if it neither closes it nor closes more than was opened. -/
theorem staysOpen_concat :
    StaysOpen (text ++ [c]) ↔
      StaysOpen text ∧ 0 ≤ braceCount (text ++ [c]) ∧
        (0 < braceCount text → 0 < braceCount (text ++ [c])) := by
  constructor
  · intro stays
    have isFront : text <+: text ++ [c] := List.prefix_append text [c]
    exact ⟨stays.of_front isFront, stays.count_nonneg, stays.positive isFront⟩
  · rintro ⟨stays, nonneg, positive⟩ read isRead
    rcases List.prefix_concat_iff.mp isRead with rfl | isRead
    · refine ⟨nonneg, fun earlier isEarlier opened => ?_⟩
      rcases List.prefix_concat_iff.mp isEarlier with rfl | isEarlier
      · exact opened
      · exact positive (stays.positive isEarlier opened)
    · exact stays read isRead

theorem staysOpen_nil : StaysOpen [] := by
  intro read isRead
  obtain rfl := List.prefix_nil.mp isRead
  refine ⟨Int.le_refl 0, fun earlier isEarlier opened => ?_⟩
  obtain rfl := List.prefix_nil.mp isEarlier
  exact opened

/-! ## What reading a text comes to -/

namespace LineEnd

theorem after_singleton_eq_running_iff :
    after depth [c] = .running inside ↔
      (inside : Int) = depth + braceCount [c] ∧ (0 < depth → 0 < inside) := by
  by_cases isOpening : c = .char '{'
  · subst isOpening
    simp only [after, ↓reduceIte, running.injEq, braceCount_opening]
    omega
  · by_cases isClosing : c = .char '}'
    · subst isClosing
      match depth with
      | 0 => simp [after]
      | 1 => simp [after]
      | deeper + 2 =>
        simp only [after, CodePoint.char.injEq, Char.reduceEq, ↓reduceIte, running.injEq,
          braceCount_closing]
        omega
    · simp only [after, isOpening, isClosing, ↓reduceIte, running.injEq,
        braceCount_other isOpening isClosing]
      omega

theorem after_singleton_eq_closed_iff : after depth [c] = .closed ↔ c = .char '}' ∧ depth = 1 := by
  by_cases isOpening : c = .char '{'
  · simp [after, isOpening]
  · by_cases isClosing : c = .char '}'
    · subst isClosing
      match depth with
      | 0 => simp [after]
      | 1 => simp [after]
      | deeper + 2 => simp [after]
    · simp [after, isOpening, isClosing]

theorem after_append :
    after depth (front ++ back) =
      match after depth front with
      | .running inside => after inside back
      | ended => ended := by
  induction front generalizing depth with
  | nil => rfl
  | cons c rest ih =>
      by_cases isOpening : c = .char '{'
      · simp [after, isOpening, ih]
      · by_cases isClosing : c = .char '}'
        · match depth with
          | 0 => simp [after, isClosing]
          | 1 => simp [after, isClosing]
          | deeper + 2 => simp [after, isClosing, ih]
        · simp [after, isOpening, isClosing, ih]

theorem after_append_of_running (runs : after depth front = .running inside) :
    after depth (front ++ back) = after inside back := by
  rw [after_append, runs]

theorem after_append_eq_running_iff :
    after depth (front ++ back) = .running inside ↔
      ∃ between, after depth front = .running between ∧ after between back = .running inside := by
  rw [after_append]
  cases after depth front <;> simp

theorem after_append_eq_closed_iff :
    after depth (front ++ back) = .closed ↔
      after depth front = .closed ∨
        ∃ between, after depth front = .running between ∧ after between back = .closed := by
  rw [after_append]
  cases after depth front <;> simp

/-- A body closes with the first closing brace that meets just one open brace. -/
theorem after_eq_closed_iff :
    after depth text = .closed ↔
      ∃ front, front ++ [.char '}'] <+: text ∧ after depth front = .running 1 := by
  induction text using List.reverseRecOn with
  | nil => simp [after]
  | append_singleton text c ih =>
      simp only [after_append_eq_closed_iff, after_singleton_eq_closed_iff, ih,
        List.prefix_concat_iff]
      constructor
      · rintro (⟨front, isFront, runs⟩ | ⟨_, runs, rfl, rfl⟩)
        · exact ⟨front, .inr isFront, runs⟩
        · exact ⟨text, .inl rfl, runs⟩
      · rintro ⟨front, same | isFront, runs⟩
        · obtain ⟨rfl, isLast⟩ := List.append_inj' same rfl
          obtain rfl := List.singleton_inj.mp isLast
          exact .inr ⟨1, runs, rfl, rfl⟩
        · exact .inl ⟨front, isFront, runs⟩

/-- Read with no brace open, a text that stays open leaves as many open as it counts. -/
theorem after_zero_eq_running_iff :
    after 0 text = .running inside ↔ StaysOpen text ∧ braceCount text = inside := by
  -- From the right: one more character adds one front part, the whole text.
  induction text using List.reverseRecOn generalizing inside with
  | nil => simp [after, staysOpen_nil, eq_comm]
  | append_singleton text c ih =>
      simp only [after_append_eq_running_iff, after_singleton_eq_running_iff, staysOpen_concat, ih,
        braceCount_append]
      constructor
      · rintro ⟨between, ⟨stays, counted⟩, left, positive⟩
        refine ⟨⟨stays, ?_, ?_⟩, ?_⟩ <;> omega
      · rintro ⟨⟨stays, nonneg, positive⟩, counted⟩
        have := stays.count_nonneg
        refine ⟨(braceCount text).toNat, ⟨stays, ?_⟩, ?_, ?_⟩ <;> omega

/-- Nothing has opened if and only if there was no brace. -/
theorem after_zero_eq_running_zero_iff :
    after 0 text = .running 0 ↔ .char '{' ∉ text ∧ .char '}' ∉ text := by
  induction text with
  | nil => simp [after]
  | cons c rest ih =>
      by_cases isOpening : c = .char '{'
      · subst isOpening
        simp only [List.mem_cons, true_or, not_true_eq_false, false_and, iff_false]
        intro runs
        obtain ⟨stays, counted⟩ := after_zero_eq_running_iff.mp runs
        have := stays.positive (List.prefix_append [.char '{'] rest) (by decide)
        omega
      · by_cases isClosing : c = .char '}'
        · simp [after, isClosing]
        · simp [after, isOpening, isClosing, ih, Ne.symm isOpening, Ne.symm isClosing]

end LineEnd

/-! ## Where the count comes back to zero -/

/-- Until the last character, the body stays open. -/
theorem ReturnsToZero.staysOpen (returns : ReturnsToZero (front ++ [c])) : StaysOpen front := by
  intro read isRead
  have within : read <+: front ++ [c] := isRead.trans (List.prefix_append front [c])
  have shorter : read ≠ front ++ [c] := by
    intro same
    have short := isRead.length_le
    rw [same, List.length_append, List.length_singleton] at short
    omega
  have nonneg := returns.never_negative read within
  refine ⟨nonneg, fun earlier isEarlier opened => ?_⟩
  have := returns.first read within shorter earlier isEarlier opened
  omega

/-- The last character lowers a count that was positive, so it is a closing brace. -/
theorem ReturnsToZero.last_closes (returns : ReturnsToZero (front ++ [c])) :
    c = .char '}' ∧ braceCount front = 1 := by
  have zero := returns.zero
  rw [braceCount_append] at zero
  have positive : 0 < braceCount front := by
    obtain ⟨read, isRead, opened⟩ := returns.opened
    rcases List.prefix_concat_iff.mp isRead with rfl | isFront
    · rw [returns.zero] at opened
      cases opened
    · exact returns.staysOpen.positive isFront opened
  by_cases isOpening : c = .char '{'
  · rw [isOpening, braceCount_opening] at zero
    omega
  · by_cases isClosing : c = .char '}'
    · rw [isClosing, braceCount_closing] at zero
      exact ⟨isClosing, by omega⟩
    · rw [braceCount_other isOpening isClosing] at zero
      omega

theorem StaysOpen.returnsToZero (stays : StaysOpen front) (counted : braceCount front = 1) :
    ReturnsToZero (front ++ [.char '}']) := by
  have zero : braceCount (front ++ [.char '}']) = 0 := by simp [counted]
  constructor
  · exact zero
  · exact ⟨front, List.prefix_append front [.char '}'], by omega⟩
  · intro read isRead shorter earlier isEarlier opened
    rcases List.prefix_concat_iff.mp isRead with same | isFront
    · exact absurd same shorter
    · have := (stays read isFront).2 earlier isEarlier opened
      omega
  · intro read isRead
    rcases List.prefix_concat_iff.mp isRead with rfl | isFront
    · exact Int.le_of_eq zero.symm
    · exact (stays read isFront).1

/-- The count comes back to zero with a closing brace that meets just one open brace. -/
theorem returnsToZero_iff :
    ReturnsToZero text ↔
      ∃ front, text = front ++ [.char '}'] ∧ LineEnd.after 0 front = .running 1 := by
  simp only [LineEnd.after_zero_eq_running_iff]
  constructor
  · intro returns
    rcases List.eq_nil_or_concat text with rfl | ⟨front, c, rfl⟩
    · obtain ⟨read, isRead, opened⟩ := returns.opened
      obtain rfl := List.prefix_nil.mp isRead
      cases opened
    · rw [List.concat_eq_append] at *
      obtain ⟨rfl, counted⟩ := returns.last_closes
      exact ⟨front, rfl, returns.staysOpen, counted⟩
  · rintro ⟨front, rfl, stays, counted⟩
    exact stays.returnsToZero counted

end CodeComplexity.Source
