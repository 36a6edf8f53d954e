import Bazaar.Transport.Host.Mark

/-!
# Characters that depend on their neighbours

Some characters may stand in a host name only between certain others: joiners, the middle dot
between two letters l, marks of one script, and digits that must not be mixed with look-alikes.
-/

namespace Bazaar.Host

/-! ## Scripts -/

/-- Closed ranges of Greek letters. -/
def greekRanges : List (Nat × Nat) :=
  [(0x370, 0x3E1), (0x3F0, 0x3FF), (0x1D26, 0x1D2A), (0x1F00, 0x1FFE), (0xAB65, 0xAB65)]

/-- Closed ranges of Hebrew letters and marks. -/
def hebrewRanges : List (Nat × Nat) := [(0x591, 0x5F4), (0xFB1D, 0xFB4F)]

/-- Closed ranges of the characters of Japanese: both syllabaries and the ideographs. -/
def japaneseRanges : List (Nat × Nat) :=
  [(0x3005, 0x3005), (0x3007, 0x3007), (0x3041, 0x3096), (0x309D, 0x309F), (0x30A1, 0x30FA),
   (0x30FD, 0x30FF), (0x31F0, 0x31FF), (0x3400, 0x4DBF), (0x4E00, 0x9FFF), (0xFA0E, 0xFA29),
   (0x16FE3, 0x16FE3), (0x16FF0, 0x16FF1), (0x1AFF0, 0x1B122), (0x1B150, 0x1B167),
   (0x20000, 0x3134A)]

/-! ## Joining -/

/-- How a letter joins its neighbours: only the one before it, both, or it is seen through. -/
inductive Joining where
  | before
  | both
  | transparent
  | none
  deriving DecidableEq, Repr

/-- Closed ranges of letters that join the letter before them alone. -/
def joinBeforeRanges : List (Nat × Nat) :=
  [(0x622, 0x625), (0x627, 0x627), (0x629, 0x629), (0x62F, 0x632), (0x648, 0x648), (0x671, 0x673),
   (0x675, 0x677), (0x688, 0x699), (0x6C0, 0x6C0), (0x6C3, 0x6CB), (0x6CD, 0x6CD), (0x6CF, 0x6CF),
   (0x6D2, 0x6D3), (0x6D5, 0x6D5), (0x6EE, 0x6EF), (0x710, 0x710), (0x715, 0x719), (0x71E, 0x71E),
   (0x728, 0x728), (0x72A, 0x72A), (0x72C, 0x72C), (0x72F, 0x72F), (0x74D, 0x74D), (0x759, 0x75B),
   (0x76B, 0x76C), (0x771, 0x771), (0x773, 0x774), (0x778, 0x779), (0x840, 0x840), (0x846, 0x847),
   (0x849, 0x849), (0x854, 0x854), (0x856, 0x858), (0x867, 0x867), (0x869, 0x86A), (0x870, 0x882),
   (0x88E, 0x88E), (0x8AA, 0x8AC), (0x8AE, 0x8AE), (0x8B1, 0x8B2), (0x8B9, 0x8B9)]

/-- Closed ranges of letters that join the letters on both sides. -/
def joinBothRanges : List (Nat × Nat) :=
  [(0x620, 0x620), (0x626, 0x626), (0x628, 0x628), (0x62A, 0x62E), (0x633, 0x63F), (0x641, 0x647),
   (0x649, 0x64A), (0x66E, 0x66F), (0x678, 0x687), (0x69A, 0x6BF), (0x6C1, 0x6C2), (0x6CC, 0x6CC),
   (0x6CE, 0x6CE), (0x6D0, 0x6D1), (0x6FA, 0x6FC), (0x6FF, 0x6FF), (0x712, 0x714), (0x71A, 0x71D),
   (0x71F, 0x727), (0x729, 0x729), (0x72B, 0x72B), (0x72D, 0x72E), (0x74E, 0x758), (0x75C, 0x76A),
   (0x76D, 0x770), (0x772, 0x772), (0x775, 0x777), (0x77A, 0x77F), (0x7CA, 0x7EA), (0x841, 0x845),
   (0x848, 0x848), (0x84A, 0x853), (0x855, 0x855), (0x860, 0x860), (0x862, 0x865), (0x868, 0x868),
   (0x886, 0x886), (0x889, 0x88D), (0x8A0, 0x8A9), (0x8AF, 0x8B0), (0x8B3, 0x8B8), (0x8BA, 0x8C8),
   (0x1820, 0x1878), (0x1887, 0x18A8), (0x18AA, 0x18AA), (0xA840, 0xA871), (0x1E922, 0x1E943)]

/-- How a character joins its neighbours. -/
def joining (c : Char) : Joining :=
  let n := c.toNat
  if isNonspacing c then .transparent
  else if isWithin joinBeforeRanges n then .before
  else if isWithin joinBothRanges n then .both
  else .none

/-- Whether a character takes the vowel from the one before it. -/
def isVowelKiller (c : Option Char) : Bool :=
  c.any fun c => markClass c == vowelKillerClass

/-- Whether the characters before and behind a place would join there; those before it come
nearest first. -/
def joinsAcross (before behind : List Char) : Bool :=
  let nearest (cs : List Char) : Joining :=
    ((cs.map joining).find? (· != .transparent)).getD .none
  nearest before == .both && (nearest behind == .both || nearest behind == .before)

/-! ## Rules -/

/-- Whether a digit is one of the Arabic ones. -/
def isArabicDigit (c : Char) : Bool := isWithin [(0x660, 0x669)] c.toNat

/-- Whether a digit is one of those of Persian and Urdu. -/
def isPersianDigit (c : Char) : Bool := isWithin [(0x6F0, 0x6F9)] c.toNat

/-- Whether a character joins those on both sides of it, or keeps them from joining. -/
def isJoiner (c : Char) : Bool :=
  c == '\u200C' || c == '\u200D'

/-- Whether there is a rule for a character. -/
def hasContext (c : Char) : Bool :=
  isArabicDigit c || isPersianDigit c ||
    [0x200C, 0x200D, 0xB7, 0x375, 0x5F3, 0x5F4, 0x30FB].contains c.toNat

/-- Whether a character may stand between others by a rule for it; the characters before it come
nearest first. -/
def fitsContext (before : List Char) (c : Char) (behind : List Char) : Bool :=
  let next (ranges : List (Nat × Nat)) (cs : List Char) : Bool :=
    cs.head?.any fun d => isWithin ranges d.toNat
  if isArabicDigit c then !(before ++ behind).any isPersianDigit
  else if isPersianDigit c then !(before ++ behind).any isArabicDigit
  else
    match c.toNat with
    | 0x200C => isVowelKiller before.head? || joinsAcross before behind
    | 0x200D => isVowelKiller before.head?
    | 0xB7 => before.head? == some 'l' && behind.head? == some 'l'
    | 0x375 => next greekRanges behind
    | 0x5F3 | 0x5F4 => next hebrewRanges before
    | 0x30FB => (before ++ behind).any fun d => isWithin japaneseRanges d.toNat
    | _ => false

end Bazaar.Host
