import CodeComplexity.Proofs.Source.Counting

/-!
# Lines put together

Lines are put together with a line feed between each two.  A line of a text holds no line feed of
its own, so that lines put together are cut into the same lines again; what is added to the last
line is added at the end; and the count of braces is the same over the lines put together as over
one line after the other.  A text is what its lines put together make, unless a carriage return ends
one of them.
-/

namespace CodeComplexity.Source

open Text

variable {lines : List Line} {line front back text : List CodePoint} {depth : Nat}

theorem joinLines_eq_intercalate : joinLines lines = [.char '\n'].intercalate lines := by
  induction lines with
  | nil => rfl
  | cons line rest ih =>
      cases rest with
      | nil => simp [joinLines]
      | cons next rest => simp [joinLines, ih]

theorem joinLines_concat_append :
    joinLines (lines ++ [front ++ back]) = joinLines (lines ++ [front]) ++ back := by
  induction lines with
  | nil => rfl
  | cons line rest ih =>
      cases rest with
      | nil => simp [joinLines]
      | cons next rest => simpa [joinLines] using ih

/-- Between lines nothing but line feeds is added. -/
theorem mem_joinLines_iff {c : CodePoint} (notFeed : c ≠ .char '\n') :
    c ∈ joinLines lines ↔ ∃ line ∈ lines, c ∈ line := by
  induction lines with
  | nil => simp [joinLines]
  | cons line rest ih =>
      cases rest with
      | nil => simp [joinLines]
      | cons next rest => simp [joinLines, notFeed, ih]

theorem LineEnd.after_joinLines : after depth (joinLines lines) = after depth lines.flatten := by
  induction lines generalizing depth with
  | nil => rfl
  | cons line rest ih =>
      cases rest with
      | nil => simp [joinLines]
      | cons next rest =>
          rw [joinLines, List.flatten_cons, after_append, after_append]
          cases after depth line with
          | closed => rfl
          | unbalanced => rfl
          | running inside => simpa [after] using ih

theorem feed_not_mem_of_mem_breakLines (listed : line ∈ breakLines text) : .char '\n' ∉ line := by
  induction text generalizing line with
  | nil => simp_all [breakLines]
  | cons c rest ih =>
      rw [breakLines] at listed
      split at listed
      · rcases List.mem_cons.mp listed with rfl | listed
        · exact List.not_mem_nil
        · exact ih listed
      · next notFeed =>
        split at listed
        · next pieces => exact absurd pieces (breakLines_ne_nil rest)
        · next first others pieces =>
          rcases List.mem_cons.mp listed with rfl | listed
          · have further : .char '\n' ∉ first := ih (by simp [pieces])
            simp [further, Ne.symm notFeed]
          · exact ih (by simp [pieces, listed])

theorem dropReturn_isPrefix : dropReturn text <+: text := by
  fun_induction dropReturn text with
  | case1 => exact List.prefix_refl []
  | case2 => exact List.nil_prefix
  | case3 => exact List.prefix_refl _
  | case4 c d rest ih => exact List.cons_prefix_cons.mpr ⟨rfl, ih⟩

theorem feed_not_mem_of_mem_splitLines (listed : line ∈ splitLines text) : .char '\n' ∉ line := by
  obtain ⟨piece, broken, rfl⟩ := List.mem_map.mp listed
  intro member
  exact feed_not_mem_of_mem_breakLines broken (dropReturn_isPrefix.mem member)

theorem mem_of_mem_splitLines {c : CodePoint} (listed : line ∈ splitLines text)
    (member : c ∈ line) :
    c ∈ text := by
  have notFeed : c ≠ .char '\n' := by
    rintro rfl
    exact feed_not_mem_of_mem_splitLines listed member
  obtain ⟨piece, broken, rfl⟩ := List.mem_map.mp listed
  rw [← joinLines_breakLines text, mem_joinLines_iff notFeed]
  exact ⟨piece, broken, dropReturn_isPrefix.mem member⟩

/-! ## Cutting what was put together -/

theorem breakLines_eq_splitOn (text : List CodePoint) :
    breakLines text = text.splitOn (.char '\n') := by
  induction text with
  | nil => rfl
  | cons c rest ih =>
      rw [breakLines, List.splitOn_cons_eq_if_modifyHead, ← ih]
      simp only [beq_iff_eq]
      split
      · rfl
      · cases pieces : breakLines rest with
        | nil => exact absurd pieces (breakLines_ne_nil rest)
        | cons line others => rfl

/-- Lines without line feeds of their own are found again. -/
theorem breakLines_joinLines (some_line : lines ≠ []) (noFeed : ∀ line ∈ lines, .char '\n' ∉ line) :
    breakLines (joinLines lines) = lines := by
  rw [breakLines_eq_splitOn, joinLines_eq_intercalate]
  exact List.splitOn_intercalate (.char '\n') noFeed some_line

/-! ## Texts in normal form -/

/-- The lines of a text put together with line feeds. -/
def normalForm (text : LooseText) : LooseText :=
  ⟨joinLines (splitLines text.points)⟩

theorem return_isSuffix_cons_iff {c : CodePoint} {rest : List CodePoint} :
    [.char '\r'] <:+ c :: rest ↔ c = .char '\r' ∧ rest = [] ∨ [.char '\r'] <:+ rest := by
  rw [List.suffix_cons_iff, List.cons.injEq, eq_comm (a := CodePoint.char '\r'), eq_comm (a := [])]

theorem dropReturn_eq_self_iff : dropReturn line = line ↔ ¬ [.char '\r'] <:+ line := by
  fun_induction dropReturn line with
  | case1 => simp
  | case2 => simp
  | case3 c other => simp [return_isSuffix_cons_iff, other]
  | case4 c d rest ih => simp [return_isSuffix_cons_iff, ih]

/-- The first line is empty if the text is, or if it begins with a line feed. -/
theorem head?_breakLines_eq_nil_iff (text : List CodePoint) :
    (breakLines text).head? = some [] ↔ text = [] ∨ [.char '\n'] <+: text := by
  cases text with
  | nil => simp [breakLines]
  | cons c rest =>
      rw [breakLines]
      split
      · next isFeed => simp [isFeed]
      · next notFeed =>
        split
        · simp [Ne.symm notFeed]
        · simp [Ne.symm notFeed]

/-- No piece of a text ends with a carriage return if none stands in front of a line feed or at the
end. -/
theorem no_return_iff :
    (∀ piece ∈ breakLines text, ¬ [.char '\r'] <:+ piece) ↔
      ¬ [.char '\r', .char '\n'] <:+: text ∧ ¬ [.char '\r'] <:+ text := by
  induction text with
  | nil => simp [breakLines]
  | cons c rest ih =>
      rw [List.infix_cons_iff, return_isSuffix_cons_iff, List.cons_prefix_cons]
      rw [breakLines]
      split
      · next isFeed =>
        subst isFeed
        simp [ih]
      · next notFeed =>
        have first := head?_breakLines_eq_nil_iff rest
        split
        · next pieces => exact absurd pieces (breakLines_ne_nil rest)
        · next line others pieces =>
          rw [pieces] at first ih
          simp only [List.head?_cons, Option.some.injEq, List.forall_mem_cons] at first ih
          rw [List.forall_mem_cons, return_isSuffix_cons_iff, first]
          tauto

/-- A text is what its lines put together make if and only if no carriage return ends a line. -/
theorem joinLines_splitLines_eq_iff :
    joinLines (splitLines text) = text ↔
      ¬ [.char '\r', .char '\n'] <:+: text ∧ ¬ [.char '\r'] <:+ text := by
  have again : breakLines (joinLines (splitLines text)) = splitLines text :=
    breakLines_joinLines (splitLines_ne_nil text) fun _ => feed_not_mem_of_mem_splitLines
  rw [← no_return_iff]
  constructor
  · intro same piece broken
    rw [same, splitLines] at again
    have kept := List.map_inj_left.mp ((List.map_id' _).trans again).symm piece broken
    exact dropReturn_eq_self_iff.mp kept
  · intro clean
    have kept : splitLines text = breakLines text := by
      rw [splitLines]
      refine (List.map_congr_left fun piece broken => ?_).trans (List.map_id' _)
      exact dropReturn_eq_self_iff.mpr (clean piece broken)
    rw [kept, joinLines_breakLines]

theorem normalForm_eq_iff {text : LooseText} :
    normalForm text = text ↔
      ¬ [.char '\r', .char '\n'] <:+: text.points ∧ ¬ [.char '\r'] <:+ text.points := by
  rw [normalForm, LooseText.ext_iff]
  exact joinLines_splitLines_eq_iff

/-- The normal form holds no other characters than the text. -/
theorem mem_of_mem_normalForm {text : LooseText} {c : CodePoint}
    (listed : c ∈ (normalForm text).points) : c ∈ text.points := by
  rw [normalForm, splitLines] at listed
  rw [← joinLines_breakLines text.points]
  generalize breakLines text.points = pieces at listed ⊢
  fun_induction joinLines pieces with
  | case1 => exact listed
  | case2 piece => exact dropReturn_isPrefix.mem listed
  | case3 piece next rest ih =>
      simp only [List.map_cons, joinLines, List.mem_append, List.mem_cons] at listed ⊢
      exact listed.imp dropReturn_isPrefix.mem (.imp_right ih)

end CodeComplexity.Source
