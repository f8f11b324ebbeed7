import CodeComplexity.Proofs.Source.Bodies

/-!
# Balanced braces

The text of a function is made of whole lines, while its braces are counted up to the one that
closes its body.  Up to that brace there are as many closing braces as opening ones; what stands
behind it on the last line belongs to the text but was never counted.
-/

namespace CodeComplexity.Source

open Text

variable {lines : List Line} {below : Nat} {text : List CodePoint}

/-- As many braces are closed as are opened. -/
def Balanced (text : List CodePoint) : Prop :=
  text.count (.char '{') = text.count (.char '}')

instance (text : List CodePoint) : Decidable (Balanced text) :=
  inferInstanceAs (Decidable (_ = _))

theorem balanced_iff : Balanced text ↔ braceCount text = 0 := by
  rw [Balanced, braceCount]
  omega

/-- A behind part decides whether a text is balanced whose front part is. -/
theorem balanced_append_iff {front back : List CodePoint} (balanced : Balanced front) :
    Balanced (front ++ back) ↔ Balanced back := by
  rw [balanced_iff] at *
  rw [braceCount_append, balanced, balanced_iff, Int.zero_add]

theorem ReturnsToZero.balanced (returns : ReturnsToZero text) : Balanced text :=
  balanced_iff.mpr returns.zero

/-- The lines of a body, put together, begin with a text whose braces are counted back to zero, and
go on with the rest of the last line. -/
theorem ReturnsOn.joinLines_eq (returns : ReturnsOn lines below) :
    ∃ line body behind, lines[below]? = some line ∧ behind <:+ line ∧
      joinLines (lines.take (below + 1)) = body ++ behind ∧ ReturnsToZero body := by
  obtain ⟨line, front, listed, ⟨behind, rfl⟩, meets⟩ := returnsOn_iff.mp returns
  refine ⟨_, joinLines (lines.take below ++ [front ++ [.char '}']]), behind, listed,
    List.suffix_append _ _, ?_, ?_⟩
  · rw [List.take_add_one, listed, Option.toList_some, joinLines_concat_append]
  · refine returnsToZero_iff.mpr ⟨joinLines (lines.take below ++ [front]), ?_, ?_⟩
    · exact joinLines_concat_append
    · rw [LineEnd.after_joinLines, List.flatten_concat]
      exact meets

/-- The text of a function is balanced up to the brace that closes it, and as a whole if and only if
the rest of its last line is. -/
theorem balanced_up_to_closing_brace (text : LooseText) (span : FunctionSpan)
    (located : span ∈ locateAll text ∨ ∃ position, locateContaining text position = some span) :
    ∃ body behind, span.text.points = body ++ behind ∧ ReturnsToZero body ∧ Balanced body ∧
      .char '\n' ∉ behind ∧ (Balanced span.text.points ↔ Balanced behind) := by
  obtain ⟨number, below, there, rfl⟩ : ∃ number below,
      FunctionAt (splitLines text.points) number below ∧
        span = .ofLines number below ((splitLines text.points).drop number) := by
    rcases located with listed | ⟨position, located⟩
    · exact mem_locateAll_iff.mp listed
    · obtain ⟨number, below, there, same, -⟩ := functionAt_of_locateContaining located
      exact ⟨number, below, there, same⟩
  obtain ⟨line, body, behind, isLast, isRest, joined, returns⟩ :=
    (Body.ofLines_eq_closes_iff.mp there.closes).1.joinLines_eq
  have whole : (FunctionSpan.ofLines number below
      ((splitLines text.points).drop number)).text.points = body ++ behind := by
    rw [FunctionSpan.ofLines, joined]
  have noFeed : .char '\n' ∉ line := by
    rw [List.getElem?_drop] at isLast
    exact feed_not_mem_of_mem_splitLines (List.mem_of_getElem? isLast)
  refine ⟨body, behind, whole, returns, returns.balanced, ?_, ?_⟩
  · exact fun member => noFeed (isRest.mem member)
  · rw [whole]
    exact balanced_append_iff returns.balanced

/-- A method whose class is closed on the line of its own closing brace. -/
def sharedLastLine : LooseText :=
  "class A \x7b\n  m() \x7b return 1; \x7d \x7d"

/-- The text of the method takes the brace of the class along. -/
theorem balanced_up_to_closing_brace_shared_line :
    ∃ span ∈ locateAll sharedLastLine, ¬ Balanced span.text.points ∧
      ∃ body behind, span.text.points = body ++ behind ∧ Balanced body ∧ ¬ Balanced behind := by
  obtain ⟨span, rest, listed⟩ : ∃ span rest, locateAll sharedLastLine = span :: rest :=
    List.exists_cons_of_ne_nil (by decide +kernel)
  have unbalanced : (locateAll sharedLastLine).head?.map
      (fun span => decide (Balanced span.text.points)) = some false := by
    decide +kernel
  rw [listed] at unbalanced
  have member : span ∈ locateAll sharedLastLine := by simp [listed]
  have unbalanced : ¬ Balanced span.text.points := by simpa using unbalanced
  obtain ⟨body, behind, whole, -, balanced, -, decides⟩ :=
    balanced_up_to_closing_brace sharedLastLine span (.inl member)
  exact ⟨span, member, unbalanced, body, behind, whole, balanced, mt decides.mpr unbalanced⟩

end CodeComplexity.Source
