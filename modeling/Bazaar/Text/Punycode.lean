/-!
# Punycode

Any text written in lower-case ASCII letters, digits and hyphens: first its ASCII characters, then
where the others have to be put in, in the order of their code points.  Each step to the next one is
a number whose digits say by themselves where it ends; what counts as a last digit adapts to the
size of the steps.
-/

namespace Bazaar.Text.Punycode

/-- The number of digits. -/
def base : Nat := 36

/-- Where the adaptation starts. -/
def initialBias : Nat := 72

/-- The first code point that is not ASCII. -/
def firstPoint : Nat := 0x80

/-- The bias for steps of about a size. -/
def biasOf (size : Nat) : Nat :=
  if 455 < size then base + biasOf (size / 35) else 36 * size / (size + 38)
termination_by size
decreasing_by omega

/-- The bias behind a step, given how long the text is then; the first step counts for less. -/
def adapt (step length : Nat) (first : Bool) : Nat :=
  let size := if first then step / 700 else step / 2
  biasOf (size + size / length)

/-- The least value of a digit at a place that does not end a number. -/
def threshold (bias place : Nat) : Nat :=
  max 1 (min 26 (base * place - bias))

/-- The digit of a value. -/
def digit (n : Nat) : Char :=
  if n < 26 then Char.ofNat (0x61 + n) else Char.ofNat (0x30 + (n - 26))

/-- The value of a digit of either case. -/
def digitValue? (c : Char) : Option Nat :=
  if 'a' ≤ c && c ≤ 'z' then some (c.toNat - 0x61)
  else if 'A' ≤ c && c ≤ 'Z' then some (c.toNat - 0x41)
  else if '0' ≤ c && c ≤ '9' then some (c.toNat - 0x30 + 26)
  else none

/-- The digits of a number from a place on. -/
def digitsFrom (bias place n : Nat) : List Char :=
  let least := threshold bias place
  if n < least then [digit n]
  else
    digit (least + (n - least) % (base - least)) ::
      digitsFrom bias (place + 1) ((n - least) / (base - least))
termination_by n
decreasing_by
  have smaller : (n - threshold bias place) / (base - threshold bias place) ≤
      n - threshold bias place := Nat.div_le_self _ _
  have positive : 1 ≤ threshold bias place := Nat.le_max_left _ _
  omega

/-! ## Writing -/

/-- A text while it is written: the step so far, the bias, how many characters are there, whether
none has been put in, and the digits, the last number first. -/
structure Writing where
  step : Nat := 0
  bias : Nat := initialBias
  length : Nat
  first : Bool := true
  numbers : List (List Char) := []

namespace Writing

/-- Goes past a character on the way to those of a code point, or puts it in. -/
def pass (point : Nat) (w : Writing) (c : Char) : Writing :=
  if c.toNat < point then { w with step := w.step + 1 }
  else if c.toNat == point then
    { step := 0
      bias := adapt w.step (w.length + 1) w.first
      length := w.length + 1
      first := false
      numbers := digitsFrom w.bias 1 w.step :: w.numbers }
  else w

/-- Puts all characters of a code point in, coming from a smaller one. -/
def putIn (cs : List Char) (w : Writing × Nat) (point : Nat) : Writing × Nat :=
  let (w, last) := w
  let start := { w with step := w.step + (point - last) * (w.length + 1) }
  let done := cs.foldl (pass point) start
  ({ done with step := done.step + 1 }, point + 1)

end Writing

/-- Whether a character is ASCII. -/
def isBasic (c : Char) : Bool := c.toNat < firstPoint

/-- Writes a text. -/
def encode (cs : List Char) : List Char :=
  let basic := cs.filter isBasic
  let points := ((cs.filter (!isBasic ·)).map Char.toNat).mergeSort.eraseDups
  let (w, _) := points.foldl (Writing.putIn cs) ({ length := basic.length }, firstPoint)
  (if basic.isEmpty then [] else basic ++ ['-']) ++ w.numbers.reverse.flatten

/-! ## Reading -/

/-- Reads a number off the front of digits, from a place on. -/
def numberFrom (bias place weight sum : Nat) : List Nat → Option (Nat × List Nat)
  | [] => none
  | d :: rest =>
    let least := threshold bias place
    let sum := sum + d * weight
    if d < least then some (sum, rest)
    else numberFrom bias (place + 1) (weight * (base - least)) sum rest

/-- Puts characters in where digits say, given the code point and the place reached. -/
def insertFrom : Nat → Nat → Nat → Nat → Bool → List Char → List Nat → Option (List Char)
  | 0, _, _, _, _, _, _ => none
  | _, _, _, _, _, cs, [] => some cs
  | fuel + 1, point, place, bias, first, cs, digits => do
    let (step, rest) ← numberFrom bias 1 1 0 digits
    let length := cs.length + 1
    let place := place + step
    let point := point + place / length
    if point.isValidChar then
      let spot := place % length
      let cs := cs.take spot ++ Char.ofNat point :: cs.drop spot
      insertFrom fuel point (spot + 1) (adapt step length first) false cs rest
    else none

/-- Reads a text; `none` when it is malformed. -/
def decode (cs : List Char) : Option (List Char) := do
  let tail := (cs.reverse.takeWhile (· != '-')).reverse
  let digits ← tail.mapM digitValue?
  insertFrom (digits.length + 1) firstPoint 0 initialBias true
    (cs.take (cs.length - tail.length - 1)) digits

/-- Puts characters in as far as the digits make sense, and leaves the rest out.  A code point
beyond the last one counts as a question mark. -/
def insertWhile : Nat → Nat → Nat → Nat → Bool → List Char → List (Option Nat) → List Char
  | 0, _, _, _, _, cs, _ => cs
  | _, _, _, _, _, cs, [] => cs
  | fuel + 1, point, place, bias, first, cs, digits =>
    match numberFrom bias 1 1 0 ((digits.takeWhile Option.isSome).filterMap id) with
    | none => cs
    | some (step, rest) =>
      let length := cs.length + 1
      let place := place + step
      let point := point + place / length
      let point := if point < 0x110000 then point else '?'.toNat
      let spot := place % length
      let cs := cs.take spot ++ Char.ofNat point :: cs.drop spot
      let used := (digits.takeWhile Option.isSome).length - rest.length
      insertWhile fuel point (spot + 1) (adapt step length first) false cs (digits.drop used)

/-- Reads a text whose ASCII characters are given beside the digits, as far as it goes. -/
def lenient (basic tail : List Char) : List Char :=
  insertWhile (tail.length + 1) firstPoint 0 initialBias true basic (tail.map digitValue?)

end Bazaar.Text.Punycode
