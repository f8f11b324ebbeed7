import CodeComplexity.DomainName.Label
import CodeComplexity.DomainName.Small

/-!
# Names on the wire

The name of a domain is written in small letters, with dots between its labels; what counts as a dot
outside ASCII becomes one.  A dot at the end stays.
-/

namespace CodeComplexity.DomainName

def isDot (c : Char) : Bool :=
  c = '.' || c.toNat = 0x3002 || c.toNat = 0xFF0E || c.toNat = 0xFF61

/-- The parts of a text between dots. -/
def labels (text : List Char) : List (List Char) :=
  text.splitOnP isDot

/-- A name as it goes over the wire: all its labels have to be labels, of which there is at least
one, and it may not be too long. -/
def wireName? (text : List Char) : Option (List Char) := do
  let small := inSmall text
  let parts := labels small
  let dotted := parts.getLast? = some []
  let written ← (if dotted then parts.dropLast else parts).mapM wireLabel?
  let name := ['.'].intercalate (if dotted then written ++ [[]] else written)
  let longest := if dotted then longestName else longestName - 1
  if small.length ≤ longestName && !written.isEmpty && name.length ≤ longest then some name
  else none

end CodeComplexity.DomainName
