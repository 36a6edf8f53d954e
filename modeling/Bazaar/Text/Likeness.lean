import Bazaar.Text.Order

/-!
# Likeness of texts

How much two texts have in common, counted in characters that lie in matching blocks: the longest
block that both share, then the longest ones before it and behind it, and so on.  Used to suggest
what a misspelt word may have meant.
-/

namespace Bazaar.Text

/-- How many characters two texts share at their start. -/
def sharedStart : List Char → List Char → Nat
  | a :: as, b :: bs => if a = b then sharedStart as bs + 1 else 0
  | _, _ => 0

/-- A block of two texts: where it begins in each, and how long it is. -/
structure Block where
  first : Nat
  second : Nat
  length : Nat
  deriving DecidableEq, Repr

/-- The longest block that two texts share; of equally long ones the earliest in the first text and
then in the second. -/
def longestBlock (a b : List Char) : Block :=
  (List.range a.length).foldl (fun best i =>
    (List.range b.length).foldl (fun best j =>
      let length := sharedStart (a.drop i) (b.drop j)
      if best.length < length then ⟨i, j, length⟩ else best) best) ⟨0, 0, 0⟩

/-- How many characters lie in matching blocks, in at most so many rounds of halving. -/
def matchingIn : Nat → List Char → List Char → Nat
  | 0, _, _ => 0
  | rounds + 1, a, b =>
    let block := longestBlock a b
    if block.length = 0 then 0
    else
      block.length + matchingIn rounds (a.take block.first) (b.take block.second) +
        matchingIn rounds (a.drop (block.first + block.length))
          (b.drop (block.second + block.length))

/-- How many characters of two texts lie in matching blocks. -/
def matching (a b : String) : Nat :=
  matchingIn (a.length + 1) a.toList b.toList

/-- Whether three fifths of the characters of two texts lie in matching blocks. -/
def isClose (a b : String) : Bool :=
  3 * (a.length + b.length) ≤ 10 * matching a b

/-- Whether the first of two words is no less like a text than the second; of equally like words
the one that sorts last comes first. -/
def noLessLike (text a b : String) : Bool :=
  let x := matching a text * (b.length + text.length)
  let y := matching b text * (a.length + text.length)
  if x = y then !isBefore a b else y < x

/-- The words most like a text, at most three. -/
def closeWords (text : String) (words : List String) : List String :=
  ((words.filter (isClose · text)).mergeSort (noLessLike text)).take 3

end Bazaar.Text
