import Bazaar.Transport.Host.Fault
import Bazaar.Transport.Host.Mark

/-!
# Writing direction in host names

A label that holds a character written from right to left has to be written so as a whole: it
starts with one, holds digits of one kind, and ends with a letter or a digit, marks apart.
-/

namespace Bazaar.Host

/-- How a character is directed. -/
inductive Direction where
  | left
  | right
  | number
  | arabicNumber
  | mark
  | neutral
  deriving DecidableEq, Repr

/-- Closed ranges of code points whose letters are written from right to left. -/
def rightRanges : List (Nat × Nat) :=
  [(0x590, 0x8FF), (0xFB1D, 0xFDFF), (0xFE70, 0xFEFC), (0x10800, 0x10FFF), (0x1E800, 0x1EFFF)]

/-- Closed ranges of digits that are written like those of European scripts. -/
def numberRanges : List (Nat × Nat) := [(0x30, 0x39), (0x6F0, 0x6F9)]

/-- Closed ranges of digits that are written like the Arabic ones. -/
def arabicNumberRanges : List (Nat × Nat) := [(0x660, 0x669), (0x10D30, 0x10D39)]

/-- Closed ranges of characters that take the direction of those around them. -/
def neutralRanges : List (Nat × Nat) :=
  [(0x2D, 0x2D), (0xB7, 0xB7), (0x2B9, 0x2BA), (0x2C6, 0x2CF), (0x2EC, 0x2EC), (0x375, 0x375),
   (0x200C, 0x200D), (0x2E2F, 0x2E2F), (0x30FB, 0x30FB), (0xA67F, 0xA67F), (0xA717, 0xA71F),
   (0xA788, 0xA788)]

/-- The direction of a character that may stand in a label. -/
def direction (c : Char) : Direction :=
  let n := c.toNat
  if isWithin numberRanges n then .number
  else if isWithin arabicNumberRanges n then .arabicNumber
  else if isWithin neutralRanges n then .neutral
  else if isNonspacing c then .mark
  else if isWithin rightRanges n then .right
  else .left

/-- Whether a label that holds a character of this direction has to be written from right to
left. -/
def Direction.isRight (d : Direction) : Bool :=
  d == .right || d == .arabicNumber

/-- Whether a character is a digit. -/
def Direction.isNumber (d : Direction) : Bool :=
  d == .number || d == .arabicNumber

/-- Goes through the directions of a label that is written from right to left, given the position
and the kind of digits so far. -/
def rightFault? (position : Nat) (digits : Option Direction) :
    List Direction → Option DirectionFault
  | [] => none
  | d :: rest =>
    if d == .left then some (.amongRight position)
    else if d.isNumber then
      if digits.any (· != d) then some .digits else rightFault? (position + 1) (some d) rest
    else rightFault? (position + 1) digits rest

/-- Whether a label written from right to left ends with a letter or a digit, marks apart. -/
def endsRight (ds : List Direction) : Bool :=
  (ds.reverse.find? (· != .mark)).any (· != .neutral)

/-- Why the directions of the characters of a label do not fit together. -/
def directionFault? (cs : List Char) : Option DirectionFault :=
  let ds := cs.map direction
  if !ds.any (·.isRight) then none
  else
    match ds.head? with
    | some .right => rightFault? 1 none ds <|> if endsRight ds then none else some .ending
    | some .left => some (.amongLeft (ds.findIdx (·.isRight) + 1))
    | _ => some (.start cs)

end Bazaar.Host
