import Bazaar.Text.Bytes

/-!
# Charsets of pairs

Charsets in which a byte above ASCII and the byte behind it name a place in a grid of characters.
A byte that starts no pair stands for nothing, and reading goes on behind it.
-/

namespace Bazaar.Text.Charset

/-- How two bytes name a place: both count the rows and columns, or two rows share a first byte, or
the columns go on below the upper half. -/
inductive Layout where
  | upper
  | folded
  | broad
  deriving DecidableEq, Repr

/-- A charset of pairs: its own name, other names, the layout, and the rows of the grid with their
numbers, a blank where there is no character.  Pieces name characters by both bytes of the first one
of them; bytes from 0xA1 on may be characters alone; all ideographs that the grid lacks may follow
outside of it. -/
structure PairTable where
  name : String
  otherNames : List String
  layout : Layout
  rows : List (Nat × List String)
  pieces : List (Nat × Nat × String) := []
  alone : String := ""
  hasRest : Bool := false

/-! ## Places -/

/-- Whether a byte lies in the upper half, controls apart. -/
def isUpper (n : Nat) : Bool :=
  0xA1 ≤ n && n ≤ 0xFE

/-- The place in a layout whose rows share first bytes by twos: a first byte skips the characters
that stand alone, and a second one skips the last of ASCII. -/
def foldedPlace? (a b : Nat) : Option (Nat × Nat) :=
  if (0x81 ≤ a && a ≤ 0x9F || 0xE0 ≤ a && a ≤ 0xFC) && 0x40 ≤ b && b ≤ 0xFC && b != 0x7F then
    let row := 2 * (if a < 0xE0 then a - 0x81 else a - 0xC1) + 1
    let column := if b < 0x80 then b - 0x40 else b - 0x41
    if column < 94 then some (row, column) else some (row + 1, column - 94)
  else none

/-- The number of a row, from one on, and of a column, from zero on, that two bytes name. -/
def Layout.place? (layout : Layout) (a b : Nat) : Option (Nat × Nat) :=
  match layout with
  | .upper => if isUpper a && isUpper b then some (a - 0xA0, b - 0xA1) else none
  | .folded => foldedPlace? a b
  | .broad =>
    if !isUpper a then none
    else if 0x40 ≤ b && b ≤ 0x7E then some (a - 0xA0, b - 0x40)
    else if isUpper b then some (a - 0xA0, b - 0xA1 + 63)
    else none

/-- The place among the ideographs outside of a grid: first come those in front of its rows, then
those to the left of them. -/
def restPlace? (a b : Nat) : Option Nat :=
  if b < 0x40 || b == 0x7F then none
  else
    let column := if b < 0x7F then b - 0x40 else b - 0x41
    if 0x81 ≤ a && a ≤ 0xA0 && b ≤ 0xFE then some ((a - 0x81) * 190 + column)
    else if 0xAA ≤ a && a ≤ 0xFE && b ≤ 0xA0 then some (32 * 190 + (a - 0xAA) * 96 + column)
    else none

/-! ## Characters -/

/-- The character that stands at a place of a row; a blank is none. -/
def characterAt? (row : Array Char) (column : Nat) : Option Char :=
  row[column]?.filter (· != ' ')

/-- The first ideograph and the one behind the last. -/
def ideographs : Nat × Nat := (0x4E00, 0x9FA6)

namespace PairTable

/-- The rows of the grid with their numbers. -/
def grid (t : PairTable) : List (Nat × Array Char) :=
  t.rows.map fun (number, parts) => (number, (parts.flatMap String.toList).toArray)

/-- Marks a character as present, given the first one that counts. -/
def markPresent (first : Nat) (seen : Array Bool) (c : Char) : Array Bool :=
  if c.toNat < first then seen else seen.setIfInBounds (c.toNat - first) true

/-- The ideographs that a grid lacks, ascending. -/
def rest (grid : List (Nat × Array Char)) : Array Char :=
  let (first, stop) := ideographs
  let present : Array Bool :=
    grid.foldl (fun seen (_, row) => row.foldl (markPresent first) seen)
      (Array.replicate (stop - first) false)
  (((List.range (stop - first)).filter fun n => present[n]? == some false).map fun n =>
    Char.ofNat (first + n)).toArray

/-- The character of a pair in the pieces. -/
def inPieces? (t : PairTable) (a b : Nat) : Option Char :=
  t.pieces.findSome? fun (first, second, characters) =>
    if a == first && second ≤ b then characterAt? characters.toList.toArray (b - second) else none

/-- The character of a pair, given the grid and the ideographs outside of it. -/
def pair? (t : PairTable) (grid : List (Nat × Array Char)) (rest : Array Char) (a b : Nat) :
    Option Char :=
  t.inPieces? a b <|>
    ((t.layout.place? a b).bind fun (row, column) =>
      (grid.lookup row).bind (characterAt? · column)) <|>
    (restPlace? a b).bind (rest[·]?)

/-- Reads bytes, given what single bytes above ASCII and pairs stand for. -/
def read (alone? : Nat → Option Char) (pair? : Nat → Nat → Option Char) :
    List UInt8 → List Char
  | [] => []
  | a :: bytes =>
    if a.toNat < 0x80 then Char.ofNat a.toNat :: read alone? pair? bytes
    else
      match alone? a.toNat, bytes with
      | some c, bytes => c :: read alone? pair? bytes
      | none, [] => [replacementChar]
      | none, b :: rest =>
        match pair? a.toNat b.toNat with
        | some c => c :: read alone? pair? rest
        | none => replacementChar :: read alone? pair? (b :: rest)

/-- The characters of some bytes. -/
def decode (t : PairTable) (bytes : List UInt8) : List Char :=
  let grid := t.grid
  let rest := if t.hasRest then rest grid else #[]
  let alone := t.alone.toList.toArray
  read (fun a => if a < 0xA1 then none else alone[a - 0xA1]?) (t.pair? grid rest) bytes

end PairTable

end Bazaar.Text.Charset
