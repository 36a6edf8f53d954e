import Bazaar.Text.Base64
import Bazaar.Text.Charset.Unicode

/-!
# Text with shifts

Unicode in ASCII characters alone, read leniently: between a plus sign and the end of the Base64
alphabet the text goes on as two-byte units in Base64.
-/

namespace Bazaar.Text.Shifted

/-- Whether a byte stands for itself outside of shifts. -/
def isDirect (b : UInt8) : Bool :=
  b.toNat < 0x80 && b.toNat != 0x2B

/-- The value of a byte in the Base64 alphabet. -/
def value? (b : UInt8) : Option Nat :=
  base64Value? (Char.ofNat b.toNat)

/-- Where reading stands within a shift: the bits that are left over, how many there are, the first
of two units that make one character, if it has been read, and the characters of the shift, the last
one first. -/
structure Shift where
  bits : Nat := 0
  count : Nat := 0
  high : Option Nat := none
  done : List Char := []

namespace Shift

/-- A shift with a unit read. -/
def addUnit (s : Shift) (u : Nat) : Shift :=
  match s.high with
  | some h =>
    if isLowSurrogate u then
      { s with
        high := none
        done := charOfCode (0x10000 + (h - 0xD800) * 1024 + (u - 0xDC00)) :: s.done }
    else if isHighSurrogate u then { s with high := some u, done := replacementChar :: s.done }
    else { s with high := none, done := charOfCode u :: replacementChar :: s.done }
  | none =>
    if isHighSurrogate u then { s with high := some u }
    else { s with done := charOfCode u :: s.done }

/-- A shift with a value of six bits read. -/
def add (s : Shift) (v : Nat) : Shift :=
  let bits := s.bits * 64 + v
  let count := s.count + 6
  if count < 16 then { s with bits := bits, count := count }
  else
    let left := count - 16
    { s with bits := bits % (1 <<< left), count := left }.addUnit (bits / (1 <<< left))

/-- Whether the bits left over are too many or say something. -/
def isBroken (s : Shift) : Bool :=
  6 ≤ s.count || s.bits != 0

end Shift

mutual

/-- Reads from outside of shifts. -/
def outside : List UInt8 → List Char
  | [] => []
  | b :: rest =>
    if isDirect b then Char.ofNat b.toNat :: outside rest
    else if b.toNat == 0x2B then
      match rest with
      | [] => []
      | c :: rest' =>
        if c.toNat == 0x2D then '+' :: outside rest'
        else
          match value? c with
          | some v => inside (Shift.add {} v) rest'
          | none => replacementChar :: outside rest'
    else replacementChar :: outside rest

/-- Reads from within a shift. -/
def inside (s : Shift) : List UInt8 → List Char
  | [] =>
    if s.high.isSome || s.isBroken then s.done.reverse ++ [replacementChar] else s.done.reverse
  | b :: rest =>
    match value? b with
    | some v => inside (s.add v) rest
    | none =>
      if s.isBroken then s.done.reverse ++ replacementChar :: outside rest
      else
        let lone := if s.high.isSome && isDirect b then [replacementChar] else []
        s.done.reverse ++ lone ++
          (if b.toNat == 0x2D then outside rest
           else if isDirect b then Char.ofNat b.toNat :: outside rest
           else replacementChar :: outside rest)

end

end Bazaar.Text.Shifted
