import Bazaar.Text.Digit

/-!
# Plain scalars

What an unquoted word stands for: a flag, a number, nothing, a date, or itself.  The forms are
recognised here; the values are built elsewhere.
-/

namespace Bazaar.Yaml

/-- The kinds of a node. -/
inductive Tag where
  | null
  | flag
  | integer
  | decimal
  | binary
  | timestamp
  | text
  | merge
  | defaultValue
  | sequence
  | mapping
  | set
  | orderedMapping
  | pairs
  | unknown
  deriving DecidableEq, Repr

namespace Plain

/-- Whether a character is a digit from zero to nine. -/
def isDigit (c : Char) : Bool := Text.isAsciiDigit c

/-- A word without its sign. -/
def unsigned (cs : List Char) : List Char :=
  match cs with
  | '-' :: rest => rest
  | '+' :: rest => rest
  | cs => cs

/-- The words for flags, each with its value. -/
def flags : List (String × Bool) :=
  ["yes", "Yes", "YES", "true", "True", "TRUE", "on", "On", "ON"].map (·, true) ++
  ["no", "No", "NO", "false", "False", "FALSE", "off", "Off", "OFF"].map (·, false)

/-- The words for nothing. -/
def nulls : List String := ["", "~", "null", "Null", "NULL"]

/-- Whether a list is not empty and holds only characters of a class. -/
def isRun (p : Char → Bool) (cs : List Char) : Bool :=
  !cs.isEmpty && cs.all p

/-- A digit or an underscore. -/
def isGrouped (c : Char) : Bool := isDigit c || c == '_'

/-- Parts behind colons in a number of base sixty: each has one or two digits and is below
sixty. -/
def isSixtieth (cs : List Char) : Bool :=
  match cs with
  | [d] => isDigit d
  | [d, e] => '0' ≤ d && d ≤ '5' && isDigit e
  | _ => false

/-- The pieces of a word between colons. -/
def colonParts : List Char → List (List Char)
  | [] => [[]]
  | c :: cs =>
    if c == ':' then [] :: colonParts cs
    else
      match colonParts cs with
      | [] => [[c]]
      | p :: ps => (c :: p) :: ps

/-- Whether a word without sign spells an integer in base ten, two, eight, sixteen or sixty. -/
def isUnsignedInteger (cs : List Char) : Bool :=
  match cs with
  | ['0'] => true
  | '0' :: 'b' :: rest => isRun (fun c => c == '0' || c == '1' || c == '_') rest
  | '0' :: 'x' :: rest => isRun (fun c => (Text.hexValue? c).isSome || c == '_') rest
  | '0' :: rest => isRun (fun c => ('0' ≤ c && c ≤ '7') || c == '_') rest
  | c :: _ =>
    isDigit c &&
      match colonParts cs with
      | [] => false
      | [whole] => whole.all isGrouped
      | whole :: parts => whole.all isGrouped && parts.all isSixtieth
  | [] => false

/-- Whether a word spells an integer. -/
def isInteger (cs : List Char) : Bool :=
  isUnsignedInteger (unsigned cs)

/-- Whether the end of a decimal is empty or an exponent, which has a sign. -/
def isExponent (cs : List Char) : Bool :=
  match cs with
  | [] => true
  | e :: sign :: rest =>
    (e == 'e' || e == 'E') && (sign == '+' || sign == '-') && isRun isDigit rest
  | _ => false

/-- Whether the end of a decimal, behind its point, is digits and perhaps an exponent. -/
def isFraction (cs : List Char) : Bool :=
  isExponent (cs.dropWhile isGrouped)

/-- Whether a word without sign spells a decimal with digits before the point. -/
def isPointed (cs : List Char) : Bool :=
  match cs with
  | c :: _ =>
    isDigit c &&
      match colonParts cs with
      | [] => false
      | [whole] =>
        match whole.dropWhile isGrouped with
        | '.' :: rest => isFraction rest
        | _ => false
      | whole :: parts =>
        match parts.getLast? with
        | some last =>
          let before := last.takeWhile (· != '.')
          whole.all isGrouped && (parts.dropLast ++ [before]).all isSixtieth &&
            (match last.dropWhile (· != '.') with
             | '.' :: rest => rest.all isGrouped
             | _ => false)
        | none => false
  | [] => false

/-- Whether a word spells a decimal; infinities and the undefined value are named behind a
point. -/
def isDecimal (cs : List Char) : Bool :=
  let word := String.ofList cs
  isPointed (unsigned cs) ||
    (match cs with
     | '.' :: c :: rest => isDigit c && isFraction rest
     | _ => false) ||
    [".inf", ".Inf", ".INF"].contains (String.ofList (unsigned cs)) ||
    [".nan", ".NaN", ".NAN"].contains word

/-- The parts of a date with or without a time. -/
structure Stamp where
  year : List Char
  month : List Char
  day : List Char
  clock : Option (List Char × List Char × List Char) := none
  fraction : List Char := []
  zone : Option (Bool × List Char × List Char) := none

/-- Takes a number of digits between two bounds off the front. -/
def takeDigits (least most : Nat) (cs : List Char) : Option (List Char × List Char) :=
  let digits := (cs.take most).takeWhile isDigit
  if digits.length < least then none else some (digits, cs.drop digits.length)

/-- Takes a character off the front. -/
def expect (c : Char) : List Char → Option (List Char)
  | d :: rest => if d == c then some rest else none
  | [] => none

/-- A space or a tab. -/
def isSpacing (c : Char) : Bool := c == ' ' || c == '\t'

/-- Reads the offset from universal time behind a time of day, to the end of the word. -/
def readZone (cs : List Char) : Option (Option (Bool × List Char × List Char)) := do
  match cs with
  | [] => some none
  | cs =>
    match cs.dropWhile isSpacing with
    | ['Z'] => some (some (false, ['0'], []))
    | sign :: rest =>
      if sign != '+' && sign != '-' then none
      let (hours, rest) ← takeDigits 1 2 rest
      match rest with
      | [] => some (some (sign == '-', hours, []))
      | ':' :: rest =>
        let (minutes, rest) ← takeDigits 2 2 rest
        if rest.isEmpty then some (some (sign == '-', hours, minutes)) else none
      | _ => none
    | [] => none

/-- Reads what stands between date and time: a letter, or blanks. -/
def readGap (cs : List Char) : Option (List Char) :=
  match cs with
  | c :: rest =>
    if c == 'T' || c == 't' then some rest
    else if isSpacing c then some (rest.dropWhile isSpacing)
    else none
  | [] => none

/-- Reads the time of day and the offset of a date. -/
def readClock (stamp : Stamp) (cs : List Char) : Option Stamp := do
  let (hour, cs) ← takeDigits 1 2 (← readGap cs)
  let (minute, cs) ← takeDigits 2 2 (← expect ':' cs)
  let (second, cs) ← takeDigits 2 2 (← expect ':' cs)
  let (fraction, cs) :=
    match cs with
    | '.' :: rest => (rest.takeWhile isDigit, rest.dropWhile isDigit)
    | cs => ([], cs)
  let zone ← readZone cs
  return { stamp with clock := some (hour, minute, second), fraction := fraction, zone := zone }

/-- A word without a line break at its end. -/
def withoutFinalBreak (cs : List Char) : List Char :=
  if cs.getLast? == some '\n' then cs.dropLast else cs

/-- Reads a date, with a time or without one. -/
def stamp? (cs : List Char) : Option Stamp := do
  let (year, cs) ← takeDigits 4 4 (withoutFinalBreak cs)
  let (month, cs) ← takeDigits 1 2 (← expect '-' cs)
  let (day, cs) ← takeDigits 1 2 (← expect '-' cs)
  let stamp : Stamp := { year := year, month := month, day := day }
  if cs.isEmpty then some stamp else readClock stamp cs

/-- Whether a word without a tag stands for a date; one without a time has two digits for month
and day. -/
def isStamp (cs : List Char) : Bool :=
  match stamp? cs with
  | some s => s.clock.isSome || (s.month.length == 2 && s.day.length == 2)
  | none => false

/-- The kind of node that a word stands for.  A line break at the end counts for nothing, unless
it is all there is. -/
def tag (s : String) : Tag :=
  if s == "\n" then .text
  else
    let cs := withoutFinalBreak s.toList
    let word := String.ofList cs
    if (flags.lookup word).isSome then .flag
    else if isDecimal cs then .decimal
    else if isInteger cs then .integer
    else if word == "<<" then .merge
    else if nulls.contains word then .null
    else if isStamp cs then .timestamp
    else if word == "=" then .defaultValue
    else if ["!", "&", "*"].contains word then .unknown
    else .text

end Plain

end Bazaar.Yaml
