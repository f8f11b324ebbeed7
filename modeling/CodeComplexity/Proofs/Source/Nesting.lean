import CodeComplexity.Proofs.Source.Spans

/-!
# Functions nest

Each function's braces are counted on their own, from depth zero at the line where it starts.  A
count that starts with more open braces at the same line runs in step with it, a constant number of
braces deeper, as long as the function is not closed; so the function whose count began further up
cannot close first.  However malformed a text is, spans lie apart from each other or one inside the
other.
-/

namespace CodeComplexity.Source

open Text

variable {lines : List Line} {depth extra inside number below inner outer reached : Nat}
  {line : Line}

/-! ## Counts that run in step -/

/-- With more braces open at the start of a line, as many more are open at its end. -/
theorem LineEnd.after_add (runs : LineEnd.after depth line = .running inside) (extra : Nat) :
    LineEnd.after (depth + extra) line = .running (inside + extra) := by
  induction line generalizing depth with
  | nil =>
      obtain rfl := LineEnd.running.inj runs
      rfl
  | cons c rest ih =>
      rw [after.eq_def] at runs ⊢
      dsimp only at runs ⊢
      split at runs
      · next isOpening =>
        rw [if_pos isOpening, Nat.add_right_comm]
        exact ih runs
      · next notOpening =>
        rw [if_neg notOpening]
        split at runs
        · next isClosing =>
          rw [if_pos isClosing]
          -- The line runs on, so the brace closes neither the body nor more than there is.
          match depth, runs with
          | deeper + 2, runs =>
            have deep : deeper + 2 + extra = deeper + extra + 2 := by omega
            have later := ih runs
            rw [Nat.add_right_comm] at later
            rw [deep]
            exact later
        · next notClosing =>
          rw [if_neg notClosing]
          exact ih runs

namespace Body

theorem lower_eq_closes {body : Body} :
    body.lower = .closes below ↔ ∃ less, body = .closes less ∧ below = less + 1 := by
  cases body with
  | closes less =>
      rw [lower]
      constructor
      · intro same
        exact ⟨less, rfl, (Body.closes.inj same).symm⟩
      · rintro ⟨_, same, rfl⟩
        rw [Body.closes.inj same]
  | blockless => simp [lower]
  | malformed => simp [lower]

/-- A body that closes does so on the first line, or further down if braces are still open or none
was seen. -/
theorem scan_cons_eq_closes {rest : List Line} :
    scan depth (line :: rest) = .closes below ↔
      LineEnd.after depth line = .closed ∧ below = 0 ∨
      ∃ inside less, LineEnd.after depth line = .running inside ∧
        (inside = 0 && endsStatement line) = false ∧ scan inside rest = .closes less ∧
          below = less + 1 := by
  rw [scan]
  cases reading : LineEnd.after depth line with
  | closed => simp [@eq_comm _ below]
  | unbalanced => simp
  | running inside =>
      dsimp only
      split
      · next ends => simp_all
      · next goesOn =>
        rw [lower_eq_closes]
        simp_all

theorem lt_length (closes : scan depth lines = .closes below) : below < lines.length := by
  induction lines generalizing depth below with
  | nil => cases closes
  | cons line rest ih =>
      rcases scan_cons_eq_closes.mp closes with ⟨-, rfl⟩ | ⟨_, less, -, -, further, rfl⟩
      · exact Nat.zero_lt_succ _
      · exact Nat.succ_lt_succ (ih further)

/-- A body that began further up, where some braces are still open, does not close before one that
begins here. -/
theorem scan_add_le (closes : scan depth lines = .closes inner)
    (outerCloses : scan (depth + extra) lines = .closes outer) : inner ≤ outer := by
  induction lines generalizing depth inner outer with
  | nil => cases closes
  | cons line rest ih =>
      rcases scan_cons_eq_closes.mp closes with ⟨-, rfl⟩ | ⟨inside, less, runs, -, further, rfl⟩
      · exact Nat.zero_le outer
      · have deeper := LineEnd.after_add runs extra
        rcases scan_cons_eq_closes.mp outerCloses with
          ⟨closed, -⟩ | ⟨deepInside, lower, deepRuns, -, below, rfl⟩
        · rw [deeper] at closed
          cases closed
        · rw [deeper] at deepRuns
          obtain rfl := LineEnd.running.inj deepRuns
          exact Nat.succ_le_succ (ih further below)

/-- The count of a body goes on at each line down to where it closes. -/
theorem scan_drop (closes : scan depth lines = .closes below) (reached_le : reached ≤ below) :
    ∃ inside, scan inside (lines.drop reached) = .closes (below - reached) := by
  induction reached generalizing depth lines below with
  | zero => exact ⟨depth, closes⟩
  | succ reached ih =>
      cases lines with
      | nil => cases closes
      | cons line rest =>
          rcases scan_cons_eq_closes.mp closes with ⟨-, rfl⟩ | ⟨inside, less, -, -, further, rfl⟩
          · omega
          · obtain ⟨deep, later⟩ := ih further (Nat.le_of_succ_le_succ reached_le)
            rw [Nat.add_sub_add_right]
            exact ⟨deep, later⟩

end Body

/-! ## The law -/

theorem FunctionSpan.containsLine_ofLines {first target : Nat} :
    (FunctionSpan.ofLines first below lines).containsLine target = true ↔
      first ≤ target ∧ target ≤ first + below := by
  rw [containsLine, Bool.and_eq_true, decide_eq_true_iff, decide_eq_true_iff, Int.ofNat_le,
    Int.ofNat_le]
  rfl

theorem FunctionAt.lt_length (there : FunctionAt lines number below) :
    number + below < lines.length := by
  have within := Body.lt_length there.closes
  rw [List.length_drop] at within
  omega

theorem FunctionAt.closes_within {start : Nat} (within : FunctionAt lines start outer)
    (there : FunctionAt lines number inner) (after : start ≤ number)
    (reaches : number ≤ start + outer) : number + inner ≤ start + outer := by
  obtain ⟨reached, rfl⟩ := Nat.exists_eq_add_of_le after
  obtain ⟨inside, onward⟩ := Body.scan_drop within.closes (by omega : reached ≤ outer)
  rw [List.drop_drop] at onward
  have closes : Body.scan 0 (lines.drop (start + reached)) = .closes inner := there.closes
  have outerCloses : Body.scan (0 + inside) (lines.drop (start + reached)) =
      .closes (outer - reached) := by
    rw [Nat.zero_add]
    exact onward
  have := Body.scan_add_le closes outerCloses
  omega

/-- Of two functions of a text, the one that starts further down lies below the other one or does
not reach beyond its end; and the function around a place is one of the text around that place which
lies within every other one around it. -/
theorem spans_nest (text : LooseText) :
    (∀ outer ∈ locateAll text, ∀ inner ∈ locateAll text, outer.startLine < inner.startLine →
      outer.endLine < inner.startLine ∨ inner.endLine ≤ outer.endLine) ∧
    ∀ position found, locateContaining text position = some found →
      found ∈ locateAll text ∧ found.containsLine position.line = true ∧
      ∀ outer ∈ locateAll text, outer.containsLine position.line = true →
        outer.startLine ≤ found.startLine ∧ found.endLine ≤ outer.endLine := by
  constructor
  · intro outer outerListed inner innerListed further
    obtain ⟨start, height, within, rfl⟩ := mem_locateAll_iff.mp outerListed
    obtain ⟨number, below, there, rfl⟩ := mem_locateAll_iff.mp innerListed
    rcases Nat.lt_or_ge (start + height) number with apart | reaches
    · exact .inl apart
    · exact .inr (within.closes_within there (Nat.le_of_lt further) reaches)
  · intro position found located
    obtain ⟨number, below, there, rfl, low, reaches, above⟩ :=
      functionAt_of_locateContaining located
    refine ⟨mem_locateAll_iff.mpr ⟨number, below, there, rfl⟩, ?_, ?_⟩
    · exact FunctionSpan.containsLine_ofLines.mpr ⟨low, reaches⟩
    · intro outer listed contains
      obtain ⟨start, height, within, rfl⟩ := mem_locateAll_iff.mp listed
      obtain ⟨low, high⟩ := FunctionSpan.containsLine_ofLines.mp contains
      -- The search would have stopped at the start of the outer function, so it has not passed it.
      have after : start ≤ number := by
        refine Nat.le_of_not_lt fun passed => ?_
        exact lookAt_ne_above within (by omega) (above start (by omega) (by omega))
      exact ⟨after, within.closes_within there after (by omega)⟩

/-- A function with another one inside, and a third one below. -/
def nestedFunctions : LooseText :=
  "function f() \x7b\n  function g() \x7b\n  \x7d\n\x7d\nfunction h() \x7b\n\x7d"

/-- The law at work: the function around line two is the inner one, which lies within the outer
one. -/
theorem spans_nest_inner :
    ∃ outer ∈ locateAll nestedFunctions, ∃ found,
      locateContaining nestedFunctions ⟨2, 0⟩ = some found ∧
      outer.startLine ≤ found.startLine ∧ found.endLine ≤ outer.endLine := by
  obtain ⟨outer, rest, listed⟩ : ∃ outer rest, locateAll nestedFunctions = outer :: rest :=
    List.exists_cons_of_ne_nil (by decide +kernel)
  obtain ⟨found, located⟩ : ∃ found, locateContaining nestedFunctions ⟨2, 0⟩ = some found :=
    Option.isSome_iff_exists.mp (by decide +kernel)
  refine ⟨outer, ?_, found, located, ?_⟩
  · rw [listed]
    exact List.mem_cons_self
  · refine ((spans_nest nestedFunctions).2 _ found located).2.2 outer ?_ ?_
    · rw [listed]
      exact List.mem_cons_self
    · have first : (locateAll nestedFunctions).head?.map (·.containsLine 2) = some true := by
        decide +kernel
      rw [listed] at first
      exact Option.some.inj first

end CodeComplexity.Source
