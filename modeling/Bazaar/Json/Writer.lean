import Bazaar.Json.Basic
import Bazaar.Platform

/-!
# Writing JSON

A document on one line with blanks behind commas and colons, or with each item on a line of its
own.  Characters outside ASCII are written as they are; doubles are the shortest text that reads
back, and the special ones are named.
-/

namespace Bazaar.Json

/-- One character inside a JSON string. -/
def stringChar (c : Char) : List Char :=
  match c with
  | '"' => ['\\', '"']
  | '\\' => ['\\', '\\']
  | '\n' => ['\\', 'n']
  | '\r' => ['\\', 'r']
  | '\t' => ['\\', 't']
  | '\x08' => ['\\', 'b']
  | '\x0c' => ['\\', 'f']
  | c => if c.toNat < 0x20 then '\\' :: 'u' :: Text.paddedHex 4 c.toNat else [c]

/-- One sign inside a JSON string.  Halves of characters are written as they are. -/
def stringSign : Sign → Phrase
  | .char c => Phrase.ofChars (stringChar c)
  | .half h => [.half h]

/-- A text as a JSON string, quotes included. -/
def quote (s : Phrase) : Phrase :=
  .char '"' :: s.flatMap stringSign ++ [.char '"']

/-- A double as JSON. -/
def floatChars (x : Float) : List Char :=
  match Decimal.read x with
  | .nan => "NaN".toList
  | .infinite negative => (if negative then "-Infinity" else "Infinity").toList
  | .finite .. => (Decimal.text x).toList

/-- What stands before an item at a depth: nothing, or a new line and its indentation. -/
def lineStart (indent : Option Nat) (depth : Nat) : List Char :=
  match indent with
  | none => []
  | some width => '\n' :: List.replicate (width * depth) ' '

/-- What stands between two items at a depth. -/
def between (indent : Option Nat) (depth : Nat) : List Char :=
  match indent with
  | none => [',', ' ']
  | some _ => ',' :: lineStart indent depth

mutual

/-- A value at a depth. -/
def written (indent : Option Nat) (depth : Nat) : Json → Phrase
  | .null => "null"
  | .bool b => if b then "true" else "false"
  | .int n => toString n
  | .float x => Phrase.ofChars (floatChars x)
  | .str s => quote s
  | .arr [] => "[]"
  | .arr (x :: xs) =>
    Phrase.ofChars ('[' :: lineStart indent (depth + 1)) ++ written indent (depth + 1) x ++
      writtenItems indent (depth + 1) xs ++ Phrase.ofChars (lineStart indent depth ++ [']'])
  | .obj [] => "\x7b\x7d"
  | .obj ((name, v) :: ms) =>
    Phrase.ofChars ('{' :: lineStart indent (depth + 1)) ++ quote name ++
      Phrase.ofChars [':', ' '] ++ written indent (depth + 1) v ++
      writtenMembers indent (depth + 1) ms ++ Phrase.ofChars (lineStart indent depth ++ ['}'])

/-- The items behind the first one, each after its separator. -/
def writtenItems (indent : Option Nat) (depth : Nat) : List Json → Phrase
  | [] => []
  | x :: xs =>
    Phrase.ofChars (between indent depth) ++ written indent depth x ++
      writtenItems indent depth xs

/-- The members behind the first one, each after its separator. -/
def writtenMembers (indent : Option Nat) (depth : Nat) : List (Phrase × Json) → Phrase
  | [] => []
  | (name, v) :: ms =>
    Phrase.ofChars (between indent depth) ++ quote name ++ Phrase.ofChars [':', ' '] ++
      written indent depth v ++ writtenMembers indent depth ms

end

/-- A document: on one line, or with a width of indentation for each level. -/
def render (indent : Option Nat) (v : Json) : Phrase :=
  written indent 0 v

/-! ## Integers -/

mutual

/-- The most digits of an integer in a value. -/
def mostDigits : Json → Nat
  | .int n => Platform.digitCount n
  | .arr items => mostDigitsOfItems items
  | .obj members => mostDigitsOfMembers members
  | _ => 0

/-- The most digits of an integer in items. -/
def mostDigitsOfItems : List Json → Nat
  | [] => 0
  | v :: rest => max (mostDigits v) (mostDigitsOfItems rest)

/-- The most digits of an integer in the values of members. -/
def mostDigitsOfMembers : List (Phrase × Json) → Nat
  | [] => 0
  | (_, v) :: rest => max (mostDigits v) (mostDigitsOfMembers rest)

end

end Bazaar.Json
