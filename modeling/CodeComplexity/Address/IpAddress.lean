/-!
# Internet addresses

Which texts are addresses of the internet protocol.  One of version four is four numbers below 256
without zeros in front.  One of version six is eight groups of hexadecimal digits, the last two of
which may be written as an address of version four; once, groups that are zero may be left out.  A
zone may follow it.
-/

namespace CodeComplexity.Address

/-- Whether a text is a number below 256 in as few digits as possible. -/
def isOctet (text : List Char) : Bool :=
  text.all Char.isDigit && !text.isEmpty && text.length ≤ 3 &&
    (text.length = 1 || text.head? ≠ some '0')
    && text.foldl (fun number c => number * 10 + (c.toNat - '0'.toNat)) 0 < 256

/-- Whether a text is an address of version four. -/
def isIpv4 (text : List Char) : Bool :=
  let octets := text.splitOn '.'
  octets.length = 4 && octets.all isOctet

/-- Where a text has got to that looks like an address of version four: in which of the four groups
of digits it is, and whether a digit of the group has come. -/
structure GroupState where
  group : Nat
  inside : Bool
  deriving DecidableEq, Repr

/-- Where the next character leads.  Any character may end a group that has a digit. -/
def GroupState.next (c : Char) (state : GroupState) : List GroupState :=
  (if c.isDigit then [{ state with inside := true }] else [])
    ++ if state.inside && state.group < 3 then [⟨state.group + 1, false⟩] else []

/-- Whether a text looks like an address of version four: four groups of digits with some character
between two of them. -/
def looksLikeIpv4 (text : List Char) : Bool :=
  let last :=
    text.foldl (fun states c => (states.flatMap (GroupState.next c)).eraseDups) [⟨0, false⟩]
  last.contains ⟨3, true⟩

def isHexDigit (c : Char) : Bool :=
  c.isDigit || ('a' ≤ c && c ≤ 'f') || ('A' ≤ c && c ≤ 'F')

def isHexGroup (text : List Char) : Bool :=
  !text.isEmpty && text.length ≤ 4 && text.all isHexDigit

/-- The groups of an address of version six, where an address of version four at the end makes up
two. -/
def hexGroups? (text : List Char) : Option (List (List Char)) :=
  let parts := text.splitOn ':'
  match parts.getLast? with
  | some last =>
    if parts.length < 3 then none
    else if last.contains '.' then
      if isIpv4 last then some (parts.dropLast ++ [['0'], ['0']]) else none
    else some parts
  | none => none

/-- Whether groups on both sides of left out ones are such: an empty group stands only at the very
end of the address, next to those left out. -/
def fitsSide (groups : List (List Char)) : Bool :=
  groups = [[]] || groups.all isHexGroup

/-- How many groups stand on a side of left out ones. -/
def sideLength (groups : List (List Char)) : Nat :=
  if groups = [[]] then 0 else groups.length

/-- Whether groups make up an address of version six. -/
def areGroups (groups : List (List Char)) : Bool :=
  let inner := groups.drop 1 |>.dropLast
  match inner.findIdx? List.isEmpty with
  | none => groups.length = 8 && groups.all isHexGroup
  | some index =>
    let front := groups.take (index + 1)
    let back := groups.drop (index + 2)
    groups.length ≤ 9 && fitsSide front && fitsSide back && sideLength front + sideLength back < 8

/-- Whether a text is an address of version six.  A zone behind a percent sign is not empty and
holds no other percent sign. -/
def isIpv6 (text : List Char) : Bool :=
  let (address, zone) := text.span (· ≠ '%')
  let zoneFits := zone.isEmpty || (1 < zone.length && !(zone.drop 1).contains '%')
  zoneFits && !text.contains '/' && (hexGroups? address).any areGroups

end CodeComplexity.Address
