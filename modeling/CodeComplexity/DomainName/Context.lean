import CodeComplexity.DomainName.Mark

/-!
# Characters that need a context

Some characters may stand in a label only beside certain others: joiners between letters that join,
the middle dot between two letters l, signs and digits of a script with their own kind.
-/

namespace CodeComplexity.DomainName

open Text

/-- On which sides a letter joins its neighbours. -/
inductive Joining where
  | left
  | right
  | dual
  deriving DecidableEq, Repr

/-- The letters that join, by closed runs in ascending order. -/
def joiningRuns : List (Nat × Nat × Joining) :=
  [(0x620, 0x620, .dual), (0x622, 0x625, .right), (0x626, 0x626, .dual), (0x627, 0x627, .right),
   (0x628, 0x628, .dual), (0x629, 0x629, .right), (0x62a, 0x62e, .dual), (0x62f, 0x632, .right),
   (0x633, 0x647, .dual), (0x648, 0x648, .right), (0x649, 0x64a, .dual), (0x66e, 0x66f, .dual),
   (0x671, 0x673, .right), (0x679, 0x687, .dual), (0x688, 0x699, .right), (0x69a, 0x6bf, .dual),
   (0x6c0, 0x6c0, .right), (0x6c1, 0x6c2, .dual), (0x6c3, 0x6cb, .right), (0x6cc, 0x6cc, .dual),
   (0x6cd, 0x6cd, .right), (0x6ce, 0x6ce, .dual), (0x6cf, 0x6cf, .right), (0x6d0, 0x6d1, .dual),
   (0x6d2, 0x6d5, .right), (0x6ee, 0x6ef, .right), (0x6fa, 0x6fc, .dual), (0x6ff, 0x6ff, .dual),
   (0x710, 0x710, .right), (0x712, 0x714, .dual), (0x715, 0x719, .right), (0x71a, 0x71d, .dual),
   (0x71e, 0x71e, .right), (0x71f, 0x727, .dual), (0x728, 0x728, .right), (0x729, 0x729, .dual),
   (0x72a, 0x72a, .right), (0x72b, 0x72b, .dual), (0x72c, 0x72c, .right), (0x72d, 0x72e, .dual),
   (0x72f, 0x72f, .right), (0x74d, 0x74d, .right), (0x74e, 0x758, .dual), (0x759, 0x75b, .right),
   (0x75c, 0x76a, .dual), (0x76b, 0x76c, .right), (0x76d, 0x770, .dual), (0x771, 0x771, .right),
   (0x772, 0x772, .dual), (0x773, 0x774, .right), (0x775, 0x777, .dual), (0x778, 0x779, .right),
   (0x77a, 0x77f, .dual), (0x7ca, 0x7ea, .dual), (0x840, 0x840, .right), (0x841, 0x845, .dual),
   (0x846, 0x847, .right), (0x848, 0x848, .dual), (0x849, 0x849, .right), (0x84a, 0x853, .dual),
   (0x854, 0x854, .right), (0x855, 0x855, .dual), (0x856, 0x858, .right), (0x860, 0x860, .dual),
   (0x862, 0x865, .dual), (0x867, 0x867, .right), (0x868, 0x868, .dual), (0x869, 0x882, .right),
   (0x886, 0x886, .dual), (0x889, 0x88d, .dual), (0x88e, 0x88e, .right), (0x8a0, 0x8a9, .dual),
   (0x8aa, 0x8ac, .right), (0x8ae, 0x8ae, .right), (0x8af, 0x8b0, .dual), (0x8b1, 0x8b2, .right),
   (0x8b3, 0x8b8, .dual), (0x8b9, 0x8b9, .right), (0x8ba, 0x8c8, .dual), (0x1820, 0x1878, .dual),
   (0x1887, 0x18a8, .dual), (0x18aa, 0x18aa, .dual), (0xa840, 0xa871, .dual),
   (0xa872, 0xa872, .left), (0x10ac0, 0x10ac4, .dual), (0x10ac5, 0x10ac5, .right),
   (0x10ac7, 0x10aca, .right), (0x10acd, 0x10acd, .left), (0x10ace, 0x10ad2, .right),
   (0x10ad3, 0x10ad6, .dual), (0x10ad7, 0x10ad7, .left), (0x10ad8, 0x10adc, .dual),
   (0x10add, 0x10add, .right), (0x10ade, 0x10ae0, .dual), (0x10ae1, 0x10ae1, .right),
   (0x10ae4, 0x10ae4, .right), (0x10b80, 0x10b80, .dual), (0x10b81, 0x10b81, .right),
   (0x10b82, 0x10b82, .dual), (0x10b83, 0x10b85, .right), (0x10b86, 0x10b88, .dual),
   (0x10b89, 0x10b89, .right), (0x10b8a, 0x10b8b, .dual), (0x10b8c, 0x10b8c, .right),
   (0x10b8d, 0x10b8d, .dual), (0x10b8e, 0x10b8f, .right), (0x10b90, 0x10b90, .dual),
   (0x10b91, 0x10b91, .right), (0x10d00, 0x10d00, .left), (0x10d01, 0x10d21, .dual),
   (0x10d22, 0x10d22, .right), (0x10d23, 0x10d23, .dual), (0x10f30, 0x10f32, .dual),
   (0x10f33, 0x10f33, .right), (0x10f34, 0x10f44, .dual), (0x10f70, 0x10f73, .dual),
   (0x10f74, 0x10f75, .right), (0x10f76, 0x10f81, .dual), (0x10fb0, 0x10fb0, .dual),
   (0x10fb2, 0x10fb3, .dual), (0x10fb4, 0x10fb6, .right), (0x10fb8, 0x10fb8, .dual),
   (0x10fb9, 0x10fba, .right), (0x10fbb, 0x10fbc, .dual), (0x10fbd, 0x10fbd, .right),
   (0x10fbe, 0x10fbf, .dual), (0x10fc1, 0x10fc1, .dual), (0x10fc2, 0x10fc3, .right),
   (0x10fc4, 0x10fc4, .dual), (0x1e922, 0x1e943, .dual)]

/-- The Greek characters, as closed runs in ascending order. -/
def greekRuns : List (Nat × Nat) :=
  [(0x371, 0x3e1), (0x3f3, 0x3fc), (0x1d26, 0x1d2a), (0x1f00, 0x1ff6), (0xab65, 0xab65)]

/-- The Hebrew characters, as closed runs in ascending order. -/
def hebrewRuns : List (Nat × Nat) :=
  [(0x591, 0x5f4), (0xfb1e, 0xfb1e)]

/-- The characters of Japanese and Chinese, as closed runs: first the Hiragana, then the Katakana,
then the Han characters. -/
def eastAsianRuns : List (Nat × Nat) :=
  [(0x3041, 0x3096), (0x309d, 0x309e), (0x1b001, 0x1b11f), (0x1b150, 0x1b152)]
  ++ [(0x30a1, 0x30fa), (0x30fd, 0x30fe), (0x31f0, 0x31ff), (0x1aff0, 0x1b000), (0x1b120, 0x1b122),
   (0x1b164, 0x1b167)]
  ++ [(0x3005, 0x3005), (0x3007, 0x3007), (0x3400, 0x9fff), (0xfa0e, 0xfa29), (0x16fe3, 0x16fe3),
   (0x16ff0, 0x16ff1), (0x20000, 0x3134a)]

/-- Marks that take a place of their own and are passed over all the same where letters join. -/
def passedOver : List Nat :=
  [0xcbf, 0xcc6, 0x11a07, 0x11a08, 0x11c3f, 0x1e94b]

/-- Whether a character is passed over where letters join. -/
def isTransparent (c : Char) : Bool :=
  (isNonspacing c && c.toNat ≠ 0x1171e) || passedOver.contains c.toNat

/-- The joining of the first character that is not passed over. -/
def nearestJoining? (text : List Char) : Option Joining :=
  ((text.find? fun c => !isTransparent c).map Char.toNat).bind (valueIn? joiningRuns)

/-- Whether a joiner stands behind a sign that joins letters; `before` is what stands before it, the
nearest character first. -/
def isBehindVirama (before : List Char) : Bool :=
  before.head?.any isVirama

/-- Whether the letters around a place join each other. -/
def joinsAround (before after : List Char) : Bool :=
  let ahead := nearestJoining? before
  let behind := nearestJoining? after
  (ahead = some .left || ahead = some .dual) && (behind = some .right || behind = some .dual)

def isArabicDigit (c : Char) : Bool :=
  0x660 ≤ c.toNat && c.toNat ≤ 0x669

def isEasternDigit (c : Char) : Bool :=
  0x6F0 ≤ c.toNat && c.toNat ≤ 0x6F9

/-- Whether a character that is not permitted everywhere may stand between two parts of a label; the
nearest character of the part `before` comes first. -/
def fitsContext (c : Char) (before after : List Char) : Bool :=
  let others := before ++ after
  match c.toNat with
  | 0x200C => isBehindVirama before || joinsAround before after
  | 0x200D => isBehindVirama before
  | 0xB7 => before.head? = some 'l' && after.head? = some 'l'
  | 0x375 => after.head?.any fun next => inRuns greekRuns next.toNat
  | 0x5F3 | 0x5F4 => before.head?.any fun latest => inRuns hebrewRuns latest.toNat
  | 0x30FB => others.any fun other => inRuns eastAsianRuns other.toNat
  | _ =>
    if isArabicDigit c then !others.any isEasternDigit
    else isEasternDigit c && !others.any isArabicDigit

end CodeComplexity.DomainName
