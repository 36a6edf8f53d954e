import Bazaar.Compression.Bits

/-!
# Prefix codes

A code that gives symbols words of different lengths, none of which starts another one.  The code
follows from the lengths alone: words are handed out in order of length and then of symbol.
-/

namespace Bazaar.Compression

/-- A prefix code as a tree: a word says at each fork which way to go. -/
inductive Huffman where
  | unused
  | symbol (n : Nat)
  | fork (zero one : Huffman)
  deriving DecidableEq, Repr

namespace Huffman

/-- The most bits that a word may have. -/
def maxLength : Nat := 15

/-- The code with one more word. -/
def insert (n : Nat) : Bits → Huffman → Huffman
  | [], _ => .symbol n
  | b :: word, .fork zero one =>
    if b then .fork zero (one.insert n word) else .fork (zero.insert n word) one
  | b :: word, _ =>
    if b then .fork .unused (insert n word .unused) else .fork (insert n word .unused) .unused

/-- The last bits of a number, the highest first. -/
def word : Nat → Nat → Bits
  | 0, _ => []
  | length + 1, n => word length (n / 2) ++ [n % 2 == 1]

/-- Hands words out to symbols in order; the next word has a given number when it has a given
length. -/
def handOut (next length : Nat) : List (Nat × Nat) → List (Bits × Nat)
  | [] => []
  | (l, n) :: rest =>
    let number := next <<< (l - length)
    (word l number, n) :: handOut (number + 1) l rest

/-- The words of symbols, given the lengths for all of them; a symbol of length zero has none. -/
def words (lengths : List Nat) : List (Bits × Nat) :=
  handOut 0 0 ((lengths.zipIdx.filter (·.1 != 0)).mergeSort fun a b => a.1 ≤ b.1)

/-- How many words of the greatest length are left over, unless there are too few of some length. -/
def spare? (lengths : List Nat) : Option Nat :=
  (List.range maxLength).foldl
    (fun spare? i => spare?.bind fun spare =>
      let used := lengths.count (i + 1)
      if 2 * spare < used then none else some (2 * spare - used))
    (some 1)

/-- Whether lengths make a code: no word is left over.  Lengths may be zero throughout, and some
codes may have a single word of one bit. -/
def makeCode (single : Bool) (lengths : List Nat) : Bool :=
  lengths.all (· == 0) ||
    match spare? lengths with
    | none => false
    | some spare => spare == 0 || (single && lengths.all (· ≤ 1))

/-- The code of lengths. -/
def ofLengths (lengths : List Nat) : Huffman :=
  (words lengths).foldl (fun code (word, n) => code.insert n word) (.fork .unused .unused)

/-- Reads the word of a symbol; `none` for a word that is not used. -/
def next : Huffman → Reading (Option Nat)
  | .unused => pure none
  | .symbol n => pure (some n)
  | .fork zero one => do
    if ← Reading.bit then one.next else zero.next

end Huffman

end Bazaar.Compression
