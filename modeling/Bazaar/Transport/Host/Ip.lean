import Bazaar.Text.Digit
import Bazaar.Text.Line

/-!
# Numeric hosts

Addresses of machines by number: four numbers with dots between them, or up to eight groups of
hexadecimal digits with colons between them.
-/

namespace Bazaar.Host

/-! ## Four numbers -/

/-- Whether a text is a number from 0 to 255 without leading zeros. -/
def isOctet (cs : List Char) : Bool :=
  !cs.isEmpty && cs.length ≤ 3 && cs.all Text.isAsciiDigit && (cs.head? != some '0' || cs == ['0'])
    && Text.natOfDigits (cs.filterMap Text.digitValue?) ≤ 255

/-- Whether a text is an address of four numbers. -/
def isFourNumbers (cs : List Char) : Bool :=
  let parts := Text.splitAt '.' cs
  parts.length == 4 && parts.all isOctet

/-- Where a text may stand that is read as four runs of digits with any one character between two
of them: in which run, and whether it has a digit. -/
abbrev RunPlace := Nat × Bool

/-- The places behind a character, given a place before it. -/
def RunPlace.next (c : Char) (place : RunPlace) : List RunPlace :=
  let (run, started) := place
  (if Text.isAsciiDigit c then [(run, true)] else []) ++
    (if started && run < 3 then [(run + 1, false)] else [])

/-- Whether a text looks like an address of four numbers: four runs of digits with any one character
between two of them. -/
def looksLikeFourNumbers (cs : List Char) : Bool :=
  (cs.foldl (fun places c => (places.flatMap (RunPlace.next c)).eraseDups) [(0, false)]).contains
    (3, true)

/-! ## Eight groups -/

/-- Whether a text is a group: at most four hexadecimal digits. -/
def isGroup (cs : List Char) : Bool :=
  !cs.isEmpty && cs.length ≤ 4 && cs.all fun c => (Text.hexValue? c).isSome

/-- The parts between colons with four numbers at the end counted as two groups. -/
def withGroups (parts : List (List Char)) : Option (List (List Char)) :=
  match parts.getLast? with
  | some last =>
    if !last.contains '.' then some parts
    else if isFourNumbers last then some (parts.dropLast ++ [['0'], ['0']])
    else none
  | none => none

/-- Whether parts between colons are eight groups, or fewer with one gap.  A gap at an end has an
empty part at either side of its colon. -/
def areGroups (parts : List (List Char)) : Bool :=
  match ((parts.drop 1).dropLast).count [] with
  | 0 => parts.length == 8 && parts.all isGroup
  | 1 =>
    let inner := (parts.drop 1).dropLast
    let before := parts.take 1 ++ inner.takeWhile (!·.isEmpty)
    let behind := (inner.dropWhile (!·.isEmpty)).drop 1 ++ parts.drop (parts.length - 1)
    let high := if before == [[]] then [] else before
    let low := if behind == [[]] then [] else behind
    (high ++ low).all isGroup && high.length + low.length ≤ 7
  | _ => false

/-- Whether a text is an address of groups, perhaps with a zone behind a percent sign. -/
def isGroups (cs : List Char) : Bool :=
  let (body, zone) :=
    match Text.cutAt? '%' cs with
    | some (body, zone) => (body, some zone)
    | none => (cs, none)
  let parts := Text.splitAt ':' body
  !cs.contains '/' && (zone.all fun z => !z.isEmpty && !z.contains '%') && 3 ≤ parts.length &&
    (withGroups parts).any fun parts => parts.length ≤ 9 && areGroups parts

end Bazaar.Host
