import CodeComplexity.Address.Escape
import CodeComplexity.Address.IpAddress
import CodeComplexity.DomainName.Wire

/-!
# Hosts

The host of an address: an address of the internet protocol, or a name.  A name in ASCII is taken as
it comes, in small letters and with escapes; any other name has to be one that can go over the wire.
What looks like an address of the internet protocol has to be one.
-/

namespace CodeComplexity.Address

def isAscii (c : Char) : Bool :=
  c.toNat < 0x80

/-- Whether a character may stand in every part of an address. -/
def isUnreserved (c : Char) : Bool :=
  c.isAlphanum || c = '-' || c = '.' || c = '_' || c = '~'

/-- The signs beside unreserved characters that stand in a host as they are. -/
def hostSigns : List Char :=
  "!$&'()*+,;=\"`\x7b\x7d%|\\".toList

/-- Whether a character stands in a host as it is. -/
def isHostChar (c : Char) : Bool :=
  isUnreserved c || hostSigns.contains c

def isBracketed (text : List Char) : Bool :=
  text.head? = some '[' && text.getLast? = some ']' && 1 < text.length

/-- A text without its brackets. -/
def unbracketed (text : List Char) : List Char :=
  (text.drop 1).dropLast

/-- The host that a text stands for. -/
def host? (text : List Char) : Option (List Char) :=
  if text.isEmpty then some []
  else if looksLikeIpv4 text then if isIpv4 text then some text else none
  else if isBracketed text then
    if isIpv6 (unbracketed text) then some (unbracketed text) else none
  else if text.all isAscii then some (escape isHostChar (text.map Char.toLower))
  else DomainName.wireName? text

/-- A host as it is written in an address: one with colons stands in brackets. -/
def hostText (host : List Char) : List Char :=
  if host.contains ':' then '[' :: host ++ [']'] else host

end CodeComplexity.Address
