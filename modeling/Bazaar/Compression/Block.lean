import Bazaar.Compression.Huffman

/-!
# Blocks

Compressed data is a row of blocks.  A block holds bytes as they are, or elements in two prefix
codes: bytes, and repetitions of what came before, given by a length and a distance.  The codes are
usual ones, or the block starts with them.
-/

namespace Bazaar.Compression

open Reading

/-! ## Elements -/

/-- The prefix codes of a block: for bytes and lengths, and for distances. -/
structure Codes where
  literals : Huffman
  distances : Huffman

/-- An element of a block. -/
inductive Element where
  | literal (b : UInt8)
  | finish
  | repetition (length distance : Nat)
  deriving DecidableEq, Repr

/-- The symbol that ends a block; smaller ones are bytes, greater ones lengths. -/
def finishSymbol : Nat := 256

/-- The least length of each symbol for lengths, and how many bits add to it. -/
def lengthBases : List (Nat × Nat) :=
  [(3, 0), (4, 0), (5, 0), (6, 0), (7, 0), (8, 0), (9, 0), (10, 0), (11, 1), (13, 1), (15, 1),
   (17, 1), (19, 2), (23, 2), (27, 2), (31, 2), (35, 3), (43, 3), (51, 3), (59, 3), (67, 4),
   (83, 4), (99, 4), (115, 4), (131, 5), (163, 5), (195, 5), (227, 5), (258, 0)]

/-- The least distance of each symbol for distances, and how many bits add to it. -/
def distanceBases : List (Nat × Nat) :=
  [(1, 0), (2, 0), (3, 0), (4, 0), (5, 1), (7, 1), (9, 2), (13, 2), (17, 3), (25, 3), (33, 4),
   (49, 4), (65, 5), (97, 5), (129, 6), (193, 6), (257, 7), (385, 7), (513, 8), (769, 8),
   (1025, 9), (1537, 9), (2049, 10), (3073, 10), (4097, 11), (6145, 11), (8193, 12), (12289, 12),
   (16385, 13), (24577, 13)]

/-- Reads the number that a symbol and the bits behind it stand for. -/
def extended (bases : List (Nat × Nat)) (fault : Fault) (symbol : Option Nat) : Reading Nat :=
  match symbol.bind fun n => bases[n]? with
  | none => refuse fault
  | some (least, count) => do return least + (← number count)

/-- Reads an element. -/
def Codes.element (codes : Codes) : Reading Element := do
  match ← codes.literals.next with
  | none => refuse .literalCode
  | some n =>
    if n < finishSymbol then return .literal (UInt8.ofNat n)
    else if n == finishSymbol then return .finish
    else
      let length ← extended lengthBases .literalCode (some (n - finishSymbol - 1))
      let distance ← extended distanceBases .distanceCode (← codes.distances.next)
      return .repetition length distance

/-! ## Codes of a block -/

/-- The usual codes. -/
def usualCodes : Codes where
  literals := .ofLengths
    (List.replicate 144 8 ++ List.replicate 112 9 ++ List.replicate 24 7 ++ List.replicate 8 8)
  distances := .ofLengths (List.replicate 32 5)

/-- The order in which a block gives the lengths of the words for lengths. -/
def lengthOrder : List Nat :=
  [16, 17, 18, 0, 8, 7, 9, 6, 10, 5, 11, 4, 12, 3, 13, 2, 14, 1, 15]

/-- Reads a count of numbers of three bits each. -/
def smallNumbers : Nat → Reading (List Nat)
  | 0 => pure []
  | count + 1 => do
    let n ← number 3
    let rest ← smallNumbers count
    return n :: rest

/-- The code for lengths. -/
def lengthCode (given : List Nat) : Reading Huffman :=
  let lengths := (List.range lengthOrder.length).map fun n =>
    given.getD (lengthOrder.idxOf n) 0
  if Huffman.makeCode false lengths then pure (.ofLengths lengths) else refuse .codeLengths

/-- Reads the lengths that a symbol adds behind others, the last of which comes first: a length, or
one that is repeated.  A word that is not used stands for no length. -/
def lengthRun (before : List Nat) (symbol : Option Nat) : Reading (List Nat) := do
  match symbol with
  | none => return [0]
  | some 16 =>
    let more ← number 2
    match before.head? with
    | some length => return List.replicate (3 + more) length
    | none => refuse .lengthRepeat
  | some 17 => return List.replicate (3 + (← number 3)) 0
  | some 18 => return List.replicate (11 + (← number 7)) 0
  | some length => return [length]

/-- Reads lengths until there is a number of them, given those before, the last one first. -/
def codeLengths (code : Huffman) (total : Nat) : Nat → List Nat → Reading (List Nat)
  | 0, before => pure before.reverse
  | fuel + 1, before =>
    if before.length == total then pure before.reverse
    else do
      let run ← lengthRun before (← code.next)
      ensure (before.length + run.length ≤ total) .lengthRepeat
      codeLengths code total fuel (run ++ before)

/-- Reads the codes at the start of a block. -/
def ownCodes : Reading Codes := do
  let literals := (← number 5) + 257
  let distances := (← number 5) + 1
  let given ← number 4
  ensure (literals ≤ 286 && distances ≤ 30) .tooManyCodes
  let code ← lengthCode (← smallNumbers (given + 4))
  let total := literals + distances
  let lengths ← codeLengths code total total []
  ensure (lengths.getD finishSymbol 0 != 0) .noEndOfBlock
  ensure (Huffman.makeCode true (lengths.take literals)) .literalLengths
  ensure (Huffman.makeCode true (lengths.drop literals)) .distanceLengths
  return ⟨.ofLengths (lengths.take literals), .ofLengths (lengths.drop literals)⟩

/-- Reads how many bytes a block holds as they are.  The number comes twice, the second time with
all bits turned. -/
def storedLength : Reading Nat := do
  align
  let n ← number 16
  let turned ← number 16
  ensure (n + turned == 65535) .storedLengths
  return n

/-! ## Data -/

/-- What was read of compressed data: the bytes it stands for, and the bits behind it or why it
could not be read to its end. -/
abbrev Inflation := Array UInt8 × Except Stop Bits

/-- Adds to the bytes so far what a reading leads to. -/
def continueWith (out : Array UInt8) (bits : Bits) (reading : Reading α)
    (add : α → Bits → Inflation) : Inflation :=
  match reading bits with
  | .error stop => (out, .error stop)
  | .ok (a, rest) => add a rest

/-- Repeats bytes from a distance behind the end; what was just repeated may be repeated again. -/
def repeated (distance : Nat) : Nat → Array UInt8 → Array UInt8
  | 0, out => out
  | length + 1, out => repeated distance length (out.push (out.getD (out.size - distance) 0))

/-- Adds the elements of a block. -/
def addElements (codes : Codes) : Nat → Array UInt8 → Bits → Inflation
  | 0, out, _ => (out, .error .ended)
  | fuel + 1, out, bits =>
    continueWith out bits codes.element fun element rest =>
      match element with
      | .literal b => addElements codes fuel (out.push b) rest
      | .finish => (out, .ok rest)
      | .repetition length distance =>
        if out.size < distance then (out, .error (.fault .distance))
        else addElements codes fuel (repeated distance length out) rest

/-- Adds a count of bytes that stand for themselves. -/
def addBytes : Nat → Array UInt8 → Bits → Inflation
  | 0, out, bits => (out, .ok bits)
  | count + 1, out, bits =>
    continueWith out bits byte fun b rest => addBytes count (out.push b) rest

/-- Adds a block of some kind. -/
def addBlock (kind : Nat) (out : Array UInt8) (bits : Bits) : Inflation :=
  match kind with
  | 0 => continueWith out bits storedLength fun n rest => addBytes n out rest
  | 1 => addElements usualCodes (bits.length + 1) out bits
  | 2 => continueWith out bits ownCodes fun codes rest =>
    addElements codes (rest.length + 1) out rest
  | _ => (out, .error (.fault .blockKind))

/-- Adds blocks up to the one that says it is the last. -/
def addBlocks : Nat → Array UInt8 → Bits → Inflation
  | 0, out, _ => (out, .error .ended)
  | fuel + 1, out, bits =>
    continueWith out bits (number 3) fun head rest =>
      match addBlock (head / 2) out rest with
      | (out, .error stop) => (out, .error stop)
      | (out, .ok rest) => if head % 2 == 1 then (out, .ok rest) else addBlocks fuel out rest

/-- Reads compressed data. -/
def inflate (bits : Bits) : Inflation :=
  addBlocks (bits.length + 1) #[] bits

end Bazaar.Compression
