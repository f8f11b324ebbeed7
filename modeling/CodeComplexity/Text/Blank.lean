/-!
# Blank characters

Which characters count as blank space, and trimming by them.  Two classes are in use and differ by
four characters: numbers written in text are trimmed by the Unicode property `White_Space`, while
lines, identifiers of documents and code are blank by that property together with the information
separators U+001C to U+001F.
-/

namespace CodeComplexity.Text

/-- The Unicode property `White_Space`. -/
def isWhiteSpace (c : Char) : Bool :=
  let code := c.toNat
  (9 ≤ code && code ≤ 13) || code == 0x20 || code == 0x85 || code == 0xA0 || code == 0x1680
    || (0x2000 ≤ code && code ≤ 0x200A) || code == 0x2028 || code == 0x2029 || code == 0x202F
    || code == 0x205F || code == 0x3000

/-- Blank space in source text: `White_Space` and the four information separators. -/
def isBlankChar (c : Char) : Bool :=
  isWhiteSpace c || (0x1C ≤ c.toNat && c.toNat ≤ 0x1F)

/-- Everything that core calls white space is blank. -/
theorem isBlankChar_of_isWhitespace {c : Char} (h : c.isWhitespace = true) :
    isBlankChar c = true := by
  simp only [Char.isWhitespace, Bool.or_eq_true, decide_eq_true_eq] at h
  obtain ((rfl | rfl) | rfl) | rfl := h <;> decide

def trimStart {α : Type} (isSpace : α → Bool) (text : List α) : List α :=
  text.dropWhile isSpace

def trimEnd {α : Type} (isSpace : α → Bool) (text : List α) : List α :=
  (text.reverse.dropWhile isSpace).reverse

def trim {α : Type} (isSpace : α → Bool) (text : List α) : List α :=
  trimEnd isSpace (trimStart isSpace text)

end CodeComplexity.Text
