import CodeComplexity.Text.Lines
import CodeComplexity.Text.Pattern

/-!
# Lines that start a function

A line of JavaScript or TypeScript is taken for the start of a function by its look alone: it reads
as a function declaration, as a binding of a name to a function or an arrow, or as a method with its
opening brace.  The front of the line decides; whatever follows it does not matter.
-/

namespace CodeComplexity.Source

open Text Text.Piece

/-- A character of a name: a word character or a dollar sign. -/
def isNameChar (c : CodePoint) : Bool :=
  isWord c || c == .char '$'

def spaces : Piece := many isBlank

/-- Blank space that has to be there. -/
def gap : Piece := atLeastOne isBlank

/-- The front part of a name; it may stop before the name does. -/
def name : Piece := atLeastOne isNameChar

def functionWord : Piece := exactly (spelled "function")

/-- `export` or `export default`, or neither. -/
def exportMark : Piece :=
  optional (inOrder [exactly (spelled "export"), gap,
    optional (inOrder [exactly (spelled "default"), gap])])

def asyncMark : Piece :=
  optional (inOrder [exactly (spelled "async"), gap])

/-- An argument list: everything between an opening parenthesis and the next closing one. -/
def arguments : Piece :=
  inOrder [exactly [.char '('], many (· != .char ')'), exactly [.char ')']]

def arrow : Piece :=
  inOrder [spaces, exactly (spelled "=>")]

/-- `function name`, `function* name` or `async function name`; no space is needed before the
name. -/
def declaration : Piece :=
  inOrder [asyncMark, functionWord, spaces, optional (inOrder [exactly [.char '*'], spaces]), name]

/-- `const name =` followed by a function or an arrow function. -/
def binding : Piece :=
  inOrder [anyOf [spelled "const", spelled "let", spelled "var"], gap, name, spaces,
    exactly [.char '='], spaces, asyncMark, orElse (inOrder [functionWord, wordEnd])
      (orElse (inOrder [arguments, arrow]) (inOrder [name, arrow]))]

/-- The keywords of statements that look like a call with a block. -/
def controlWords : List (List CodePoint) :=
  ["if", "for", "while", "switch", "catch", "with", "return"].map spelled

/-- `name(arguments) {`, unless it is a control statement. -/
def method : Piece :=
  inOrder [notAhead (inOrder [anyOf controlWords, wordEnd]), asyncMark, name, spaces, arguments,
    spaces, exactly [.char '{']]

/-- The front of a line that starts a function. -/
def functionStart : Piece :=
  inOrder [spaces, exportMark, orElse declaration (orElse binding method)]

/-- Whether a line starts a function. -/
def isFunctionStart (line : Line) : Bool :=
  functionStart.fits line

end CodeComplexity.Source
