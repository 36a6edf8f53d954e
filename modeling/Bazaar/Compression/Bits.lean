import Bazaar.Compression.Fault

/-!
# Bits of compressed data

Compressed data is read bit by bit, the lowest bit of a byte first.  A number starts with its lowest
bit.
-/

namespace Bazaar.Compression

/-- The bits of some bytes. -/
abbrev Bits := List Bool

namespace Bits

/-- The bits of a byte. -/
def ofByte (b : UInt8) : Bits :=
  (List.range 8).map fun i => b.toNat.testBit i

/-- The bits of some bytes. -/
def ofBytes (bytes : List UInt8) : Bits :=
  bytes.flatMap ofByte

end Bits

/-- Reads something off the front of bits, unless they end or are at fault. -/
abbrev Reading (α : Type) := StateT Bits (Except Stop) α

namespace Reading

/-- Stops for a fault. -/
def refuse (fault : Fault) : Reading α :=
  throw (.fault fault)

/-- Stops for a fault unless a condition holds. -/
def ensure (holds : Bool) (fault : Fault) : Reading Unit :=
  if holds then pure () else refuse fault

/-- Reads a bit. -/
def bit : Reading Bool := fun bits =>
  match bits with
  | [] => .error .ended
  | b :: rest => .ok (b, rest)

/-- Reads a number of a count of bits. -/
def number : Nat → Reading Nat
  | 0 => pure 0
  | count + 1 => do
    let b ← bit
    let n ← number count
    return 2 * n + b.toNat

/-- Reads a byte. -/
def byte : Reading UInt8 := do
  return UInt8.ofNat (← number 8)

/-- Reads the number of four bytes, the highest byte first. -/
def bigWord : Reading Nat := do
  let a ← number 8
  let b ← number 8
  let c ← number 8
  let d ← number 8
  return ((a * 256 + b) * 256 + c) * 256 + d

/-- Passes bits by up to the next whole byte. -/
def align : Reading Unit := do
  modify fun bits => bits.drop (bits.length % 8)

end Reading

end Bazaar.Compression
