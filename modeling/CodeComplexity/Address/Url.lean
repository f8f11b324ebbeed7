import CodeComplexity.Address.Host
import CodeComplexity.Address.Path
import CodeComplexity.Text.Blank
import CodeComplexity.Text.Digit

/-!
# Addresses

An address is taken apart into its scheme, its authority (who asks, which host, which port), its
path, its query and its fragment, and each part is put into the form in which it goes over the wire.
An address without a scheme or without a host is relative; it stands for a path below nothing.
-/

namespace CodeComplexity.Address

open Text

/-- An address, part by part; a part that may be missing is empty or none then. -/
structure Url where
  scheme : List Char
  userInfo : List Char
  host : List Char
  port : Option Int
  path : List Char
  query : Option (List Char)
  fragment : Option (List Char)
  deriving DecidableEq, Repr

/-- The most characters of an address, and of each of its parts. -/
def longest : Nat := 65536

def isControl (c : Char) : Bool :=
  c.toNat < 0x20 || c.toNat = 0x7F

def isSchemeChar (c : Char) : Bool :=
  c.isAlphanum || c = '+' || c = '.' || c = '-'

/-- The scheme in front of a text, which starts with a letter or is empty, and what follows its
colon. -/
def splitScheme (text : List Char) : List Char × List Char :=
  let (front, rest) := text.span isSchemeChar
  match rest with
  | ':' :: after => if front.head?.all Char.isAlpha then (front, after) else ([], text)
  | _ => ([], text)

def endsAuthority (c : Char) : Bool :=
  c = '/' || c = '?' || c = '#'

/-- The authority behind two slashes, and what follows it. -/
def splitAuthority (text : List Char) : List Char × List Char :=
  match text with
  | '/' :: '/' :: rest => rest.span fun c => !endsAuthority c
  | _ => ([], text)

/-- The part behind a mark in front of a text, up to another mark, and what follows it. -/
def splitPart (mark : Char) (stop : Char → Bool) (text : List Char) :
    Option (List Char) × List Char :=
  match text with
  | [] => (none, [])
  | c :: rest =>
    if c = mark then
      let (part, after) := rest.span fun other => !stop other
      (some part, after)
    else (none, c :: rest)

/-- What stands before the last sign "at" of an authority, and what stands behind it. -/
def splitUserInfo (authority : List Char) : List Char × List Char :=
  let (back, front) := authority.reverse.span (· ≠ '@')
  ((front.drop 1).reverse, back.reverse)

/-- The host in front of a text, which may stand in brackets, and what follows it without a
colon. -/
def splitHost (text : List Char) : List Char × List Char :=
  let (back, front) := text.reverse.span (· ≠ ']')
  let (host, rest) :=
    if text.head? = some '[' && !front.isEmpty then (front.reverse, back.reverse)
    else text.span (· ≠ ':')
  (host, if rest.head? = some ':' then rest.drop 1 else rest)

/-- The values of digits that single underscores may keep apart. -/
def digitValues? : List Char → Option (List Nat)
  | [] => none
  | [c] => (decimalDigit? c).map ([·])
  | c :: '_' :: rest => do
    let digit ← decimalDigit? c
    let digits ← digitValues? rest
    pure (digit :: digits)
  | c :: next :: rest => do
    let digit ← decimalDigit? c
    let digits ← digitValues? (next :: rest)
    pure (digit :: digits)

/-- The most digits of a port. -/
def mostPortDigits : Nat := 4300

/-- The number that a text stands for: digits of any script, perhaps behind a sign, with blank space
around them. -/
def portNumber? (text : List Char) : Option Int := do
  let (negative, unsigned) :=
    match trim isBlankChar text with
    | '-' :: rest => (true, rest)
    | '+' :: rest => (false, rest)
    | rest => (false, rest)
  let digits ← digitValues? unsigned
  let size : Nat := digits.foldl (fun number digit => number * 10 + digit) 0
  if mostPortDigits < digits.length then none else some (if negative then -(size : Int) else size)

/-- The ports that need not be written, by scheme. -/
def knownPorts : List (String × Int) :=
  [("ftp", 21), ("http", 80), ("https", 443), ("ws", 80), ("wss", 443)]

/-- The port of an address; none if it is the one that its scheme has anyway.  A scheme in capital
letters has none. -/
def port? (scheme text : List Char) : Option (Option Int) :=
  if text.isEmpty then some none
  else (portNumber? text).map fun port =>
    if knownPorts.lookup (String.ofList scheme) = some port then none else some port

def isVisible (c : Char) : Bool :=
  0x20 < c.toNat && c.toNat < 0x7F

/-- Whether a character is visible and is none of some signs. -/
def isVisibleBut (signs : String) (c : Char) : Bool :=
  isVisible c && !signs.toList.contains c

def isFragmentChar : Char → Bool :=
  isVisibleBut "\"<>`"

def isQueryChar : Char → Bool :=
  isVisibleBut "\"#<>"

def isPathChar : Char → Bool :=
  isVisibleBut "\"#<>?`\x7b\x7d"

def isUserInfoChar : Char → Bool :=
  isVisibleBut "\"#<>?`\x7b\x7d/;=@[\\]^|"

namespace Url

/-- Whether an address tells who asks, a host or a port. -/
def hasAuthority (url : Url) : Bool :=
  !url.userInfo.isEmpty || !url.host.isEmpty || url.port.isSome

/-- Whether an address may have its path: behind an authority it starts with a slash, and without a
scheme and an authority it is not to be taken for one. -/
def pathFits (url : Url) : Bool :=
  if url.hasAuthority then url.path.isEmpty || url.path.head? = some '/'
  else !url.scheme.isEmpty || !(['/', '/'].isPrefixOf url.path || url.path.head? = some ':')

/-- The same address with its path in the form in which it goes over the wire. -/
def withTidyPath (url : Url) : Url :=
  let path :=
    if url.scheme.isEmpty && !url.hasAuthority then url.path else withoutDots url.path
  { url with path := escape isPathChar path }

/-- The address that a text stands for. -/
def ofText? (text : List Char) : Option Url := do
  if longest < text.length || text.any isControl then none
  else
    let (scheme, afterScheme) := splitScheme text
    let (authority, afterAuthority) := splitAuthority afterScheme
    let (path, afterPath) := afterAuthority.span fun c => c ≠ '?' && c ≠ '#'
    let (query, afterQuery) := splitPart '?' (· = '#') afterPath
    let (fragment, _) := splitPart '#' (fun _ => false) afterQuery
    let (userInfo, place) := splitUserInfo authority
    let (hostPart, portPart) := splitHost place
    let host ← host? hostPart
    let port ← port? scheme portPart
    let url : Url :=
      { scheme := scheme.map Char.toLower
        userInfo := escape isUserInfoChar userInfo
        host
        port
        path
        query := query.map (escape isQueryChar)
        fragment := fragment.map (escape isFragmentChar) }
    if url.pathFits then some url.withTidyPath else none

/-- Whether an address has a scheme and a host. -/
def isAbsolute (url : Url) : Bool :=
  !url.scheme.isEmpty && !url.host.isEmpty

/-- A relative address below nothing: its path from the first step on, and its query. -/
def belowNothing (url : Url) : Url where
  scheme := []
  userInfo := []
  host := []
  port := none
  path := '/' :: url.path.dropWhile (· = '/')
  query := url.query
  fragment := none

/-- Whether the path and the query of an address are short enough. -/
def partsFit (url : Url) : Bool :=
  url.path.length ≤ longest && (url.query.getD []).length ≤ longest

/-- The address that a text stands for, as a request is sent to it. -/
def target? (text : List Char) : Option Url :=
  (ofText? text).bind fun url =>
    if url.isAbsolute then some url
    else if url.belowNothing.partsFit then some url.belowNothing
    else none

def authorityText (url : Url) : List Char :=
  (if url.userInfo.isEmpty then [] else url.userInfo ++ ['@']) ++ hostText url.host
    ++ (url.port.map fun port => ':' :: (toString port).toList).getD []

def text (url : Url) : List Char :=
  (if url.scheme.isEmpty then [] else url.scheme ++ [':'])
    ++ (if url.authorityText.isEmpty then [] else ['/', '/'] ++ url.authorityText)
    ++ url.path
    ++ (url.query.map ('?' :: ·)).getD []
    ++ (url.fragment.map ('#' :: ·)).getD []

end Url

end CodeComplexity.Address
