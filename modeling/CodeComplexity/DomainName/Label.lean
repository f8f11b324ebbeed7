import CodeComplexity.DomainName.Composed
import CodeComplexity.DomainName.Context
import CodeComplexity.DomainName.Direction
import CodeComplexity.DomainName.Permitted
import CodeComplexity.DomainName.Punycode

/-!
# Labels

The parts of the name of a domain.  A label has to be in composed form, may not start with a mark,
has its hyphens where they do no harm, holds permitted characters only and keeps to one direction.
On the wire a label is ASCII; one with other characters is written in Punycode behind a front of its
own.
-/

namespace CodeComplexity.DomainName

/-- The most characters of a label on the wire. -/
def longestLabel : Nat := 63

/-- The most characters of a name that ends with a dot. -/
def longestName : Nat := 254

def punycodeFront : List Char := ['x', 'n', '-', '-']

/-- Whether the hyphens of a label stand neither at its ends nor together at its third and fourth
place. -/
def hyphensFit (label : List Char) : Bool :=
  label.head? ≠ some '-' && label.getLast? ≠ some '-' && (label.drop 2).take 2 ≠ ['-', '-']

/-- Whether all characters of a label fit, behind the part `before`, the nearest character of which
comes first. -/
def charactersFit (before : List Char) : List Char → Bool
  | [] => true
  | c :: rest =>
    (isPermitted c || fitsContext c before rest) && charactersFit (c :: before) rest

/-- Whether a text may be a label. -/
def isLabel (text : List Char) : Bool :=
  !text.isEmpty && text.length ≤ longestName && hyphensFit text && !text.head?.any isMark
    && charactersFit [] text && isComposed text && keepsDirection text

/-- Whether a label in ASCII is one: what it stands for is, if it is written in Punycode. -/
def isAsciiLabel (label : List Char) : Bool :=
  if punycodeFront.isPrefixOf label then
    let written := label.drop punycodeFront.length
    !written.isEmpty && written.getLast? ≠ some '-' && (Punycode.decode? written).any isLabel
  else isLabel label

/-- A label as it goes over the wire. -/
def wireLabel? (label : List Char) : Option (List Char) :=
  let written :=
    if label.all Punycode.isAscii then label else punycodeFront ++ Punycode.encode label
  let fits := if label.all Punycode.isAscii then isAsciiLabel label else isLabel label
  if fits && written.length ≤ longestLabel then some written else none

end CodeComplexity.DomainName
