import CodeComplexity.Text.CodePoint

/-!
# Lines of a text

A text is cut into lines at line feeds only, and a carriage return that ends a line does not belong
to it, so that line numbers agree with an editor's.  `joinLines` puts lines back together with line
feeds: it restores a text that has no carriage return before a line feed, and brings any other text
into its normal form.
-/

namespace CodeComplexity.Text

/-- The code points of one line, without its line end. -/
abbrev Line := List CodePoint

/-- The pieces of a text between its line feeds; there is always at least one. -/
def breakLines : List CodePoint → List Line
  | [] => [[]]
  | c :: rest =>
    if c = .char '\n' then [] :: breakLines rest
    else match breakLines rest with
      | [] => [[c]]
      | line :: lines => (c :: line) :: lines

/-- A line without the one carriage return that may end it. -/
def dropReturn : List CodePoint → Line
  | [] => []
  | [c] => if c = .char '\r' then [] else [c]
  | c :: d :: rest => c :: dropReturn (d :: rest)

/-- The lines of a text. -/
def splitLines (text : List CodePoint) : List Line :=
  (breakLines text).map dropReturn

/-- Lines put together with a line feed between each two. -/
def joinLines : List Line → List CodePoint
  | [] => []
  | [line] => line
  | line :: next :: rest => line ++ .char '\n' :: joinLines (next :: rest)

theorem breakLines_ne_nil (text : List CodePoint) : breakLines text ≠ [] := by
  cases text with
  | nil => simp [breakLines]
  | cons c rest =>
    simp only [breakLines]
    split
    · simp
    · split <;> simp

theorem splitLines_ne_nil (text : List CodePoint) : splitLines text ≠ [] := by
  simp [splitLines, breakLines_ne_nil]

/-- Nothing is lost but carriage returns: the pieces join to the text. -/
@[simp] theorem joinLines_breakLines (text : List CodePoint) :
    joinLines (breakLines text) = text := by
  induction text with
  | nil => rfl
  | cons c rest ih =>
    simp only [breakLines]
    split
    · next isFeed =>
      subst isFeed
      cases pieces : breakLines rest with
      | nil => exact absurd pieces (breakLines_ne_nil rest)
      | cons line lines => rw [pieces] at ih; simp [joinLines, ih]
    · cases pieces : breakLines rest with
      | nil => exact absurd pieces (breakLines_ne_nil rest)
      | cons line lines =>
        rw [pieces] at ih
        cases lines with
        | nil => simpa [joinLines] using ih
        | cons next more => simpa [joinLines] using ih

end CodeComplexity.Text
