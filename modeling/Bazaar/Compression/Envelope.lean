import Bazaar.Compression.Block

/-!
# Envelopes

Compressed data comes bare, or in one of two envelopes: that of a file and that of a stream.  Each
has a header before the data and a checksum of what the data stands for behind it: the
remainder of the data as a polynomial over bits, or a pair of running sums.  What follows the
envelope is passed by.
-/

namespace Bazaar.Compression

open Reading

/-! ## Checksums -/

/-- The polynomial by which remainders are taken, its bits turned around. -/
def polynomial : UInt32 := 0xEDB88320

/-- A remainder after one more bit. -/
def remainderBit (c : UInt32) : UInt32 :=
  if c % 2 == 1 then (c / 2) ^^^ polynomial else c / 2

/-- A remainder after some more bits. -/
def remainderBits : Nat → UInt32 → UInt32
  | 0, c => c
  | count + 1, c => remainderBits count (remainderBit c)

/-- A remainder after one more byte. -/
def remainderByte (c : UInt32) (b : UInt8) : UInt32 :=
  remainderBits 8 (c ^^^ b.toUInt32)

/-- The remainder of data, all bits turned before and after. -/
def crc (bytes : List UInt8) : Nat :=
  ((bytes.foldl remainderByte 0xFFFFFFFF) ^^^ 0xFFFFFFFF).toNat

/-- The modulus of the sums. -/
def sumModulus : Nat := 65521

/-- The sum of the bytes of data, and above it the sum of all the sums on the way. -/
def sums (bytes : List UInt8) : Nat :=
  let (low, high) := bytes.foldl
    (fun (low, high) b =>
      let low := (low + b.toNat) % sumModulus
      (low, (high + low) % sumModulus))
    (1, 0)
  high * 65536 + low

/-! ## Methods -/

/-- The number of the one method of compression. -/
def method : Nat := 8

/-! ## Files -/

/-- The first two bytes of a compressed file. -/
def fileMark : Nat := 0x8B1F

/-- Passes a count of bytes by. -/
def skipBytes : Nat → Reading Unit
  | 0 => pure ()
  | count + 1 => do
    let _ ← byte
    skipBytes count

/-- Passes a text by, and the zero that ends it. -/
def skipText : Nat → Reading Unit
  | 0 => throw .ended
  | fuel + 1 => do
    if (← byte) != 0 then skipText fuel

/-- Checks the sum of the bytes so far, given all bytes. -/
def checkHeader (bytes : List UInt8) : Reading Unit := do
  let left := (← get).length / 8
  let sum ← number 16
  ensure (sum == crc (bytes.take (bytes.length - left)) % 65536) .headerChecksum

/-- Passes the header of a file by, given all bytes of the file. -/
def skipFileHeader (bytes : List UInt8) : Reading Unit := do
  ensure ((← number 16) == fileMark) .header
  let kind ← number 8
  let flags ← number 8
  ensure (kind == method) .method
  ensure (flags < 32) .headerFlags
  skipBytes 6
  if flags.testBit 2 then skipBytes (← number 16)
  if flags.testBit 3 then skipText bytes.length
  if flags.testBit 4 then skipText bytes.length
  if flags.testBit 1 then checkHeader bytes

/-- Checks the remainder and the length behind the data of a file. -/
def checkFile (out : List UInt8) : Reading Unit := do
  align
  ensure ((← number 32) == crc out) .checksum
  ensure ((← number 32) == out.length % 4294967296) .length

/-! ## Streams -/

/-- Passes the header of a stream by. -/
def skipStreamHeader : Reading Unit := do
  let first ← number 8
  let second ← number 8
  ensure ((first * 256 + second) % 31 == 0) .header
  ensure (first % 16 == method) .method
  ensure (first / 16 < 8) .window
  if second.testBit 5 then
    skipBytes 4
    refuse .dictionary

/-- Checks the sums behind the data of a stream. -/
def checkStream (out : List UInt8) : Reading Unit := do
  align
  ensure ((← bigWord) == sums out) .checksum

/-! ## Reading -/

/-- What data stands for that ends too early counts; data that is at fault stands for nothing. -/
def settle (out : List UInt8) (checked : Except Stop α) : Except Fault (List UInt8) :=
  match checked with
  | .error (.fault fault) => .error fault
  | _ => .ok out

/-- The bytes of compressed data between a header and what follows it. -/
def unpack (header : Reading Unit) (check : List UInt8 → Reading Unit) (bytes : List UInt8) :
    Except Fault (List UInt8) :=
  match header (Bits.ofBytes bytes) with
  | .error stop => settle [] (.error stop : Except Stop Unit)
  | .ok ((), bits) =>
    let (out, rest) := inflate bits
    let out := out.toList
    settle out (rest.bind (check out))

/-- The bytes of bare compressed data. -/
def ofBare : List UInt8 → Except Fault (List UInt8) :=
  unpack (pure ()) fun _ => pure ()

/-- The bytes of a compressed file. -/
def ofFile (bytes : List UInt8) : Except Fault (List UInt8) :=
  unpack (skipFileHeader bytes) checkFile bytes

/-- The bytes of a compressed stream. -/
def ofStream : List UInt8 → Except Fault (List UInt8) :=
  unpack skipStreamHeader checkStream

end Bazaar.Compression
