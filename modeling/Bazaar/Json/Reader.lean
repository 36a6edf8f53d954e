import Bazaar.Decimal.Reading
import Bazaar.Failure.Class
import Bazaar.Json.Basic
import Bazaar.Platform
import Bazaar.Text.Bytes
import Bazaar.Text.Line

/-!
# Reading JSON

A reader for whole documents.  Beside the standard it accepts `NaN`, `Infinity` and `-Infinity`; a
number with a fraction or an exponent is a double, any other an integer, which must not have more
digits than the platform reads.  Every reader takes the signs that are left and returns what
follows; an error keeps how many signs were left, which gives its position.
-/

namespace Bazaar.Json

/-- What is wrong with a document. -/
inductive Fault where
  | expectingValue
  | expectingName
  | expectingColon
  | expectingComma
  | invalidControl
  | invalidEscape
  | invalidCodeEscape
  | unterminatedString
  | extraData
  | byteOrderMark
  | number (fault : NumberFault)
  /-- Arrays and objects within each other beyond what can be read. -/
  | tooDeep (inArray : Bool)
  deriving DecidableEq, Repr

/-- The wording of a fault. -/
def Fault.message : Fault → String
  | .expectingValue => "Expecting value"
  | .expectingName => "Expecting property name enclosed in double quotes"
  | .expectingColon => "Expecting ':' delimiter"
  | .expectingComma => "Expecting ',' delimiter"
  | .invalidControl => "Invalid control character at"
  | .invalidEscape => "Invalid \\escape"
  | .invalidCodeEscape => "Invalid \\uXXXX escape"
  | .unterminatedString => "Unterminated string starting at"
  | .extraData => "Extra data"
  | .byteOrderMark => "Unexpected UTF-8 BOM (decode using utf-8-sig)"
  | .number fault => fault.message
  | .tooDeep inArray =>
    "maximum recursion depth exceeded while decoding a JSON " ++
      (if inArray then "array" else "object") ++ " from a unicode string"

/-- A fault and how many signs were left where it was noticed. -/
structure ReadError where
  fault : Fault
  left : Nat
  deriving DecidableEq, Repr

/-- JSON white space. -/
def isSpace (c : Char) : Bool :=
  c == ' ' || c == '\t' || c == '\n' || c == '\r'

/-- Drops white space off the front. -/
def skipSpace : Phrase → Phrase
  | .char c :: rest => if isSpace c then skipSpace rest else .char c :: rest
  | rest => rest

/-- The character that a one-letter escape stands for. -/
def simpleEscape? (c : Char) : Option Char :=
  match c with
  | '"' => some '"'
  | '\\' => some '\\'
  | '/' => some '/'
  | 'b' => some '\x08'
  | 'f' => some '\x0c'
  | 'n' => some '\n'
  | 'r' => some '\r'
  | 't' => some '\t'
  | _ => none

/-- Four hexadecimal digits as a number. -/
def fourHex? (a b c d : Sign) : Option Nat := do
  let a ← a.char?.bind Text.hexValue?
  let b ← b.char?.bind Text.hexValue?
  let c ← c.char?.bind Text.hexValue?
  let d ← d.char?.bind Text.hexValue?
  return ((a * 16 + b) * 16 + c) * 16 + d

/-- Whether a code unit is the first half of a pair. -/
def isHighSurrogate (n : Nat) : Bool := 0xD800 ≤ n && n < 0xDC00

/-- Whether a code unit is the second half of a pair. -/
def isLowSurrogate (n : Nat) : Bool := 0xDC00 ≤ n && n < 0xE000

/-- Reads a string behind its opening quote; `opened` is how many signs were left at that quote, and
`fuel` bounds the number of steps.  Two halves that are escaped one behind the other make a
character if they belong together. -/
def stringFrom (opened : Nat) : Nat → Phrase → Except ReadError (Phrase × Phrase)
  | 0, _ => .error ⟨.unterminatedString, opened⟩
  | _, [] => .error ⟨.unterminatedString, opened⟩
  | fuel + 1, s :: rest =>
    let push (s : Sign) (rest : Phrase) : Except ReadError (Phrase × Phrase) :=
      (stringFrom opened fuel rest).map fun (p, tail) => (s :: p, tail)
    match s with
    | .half _ => push s rest
    | .char c =>
      if c == '"' then .ok ([], rest)
      else if c == '\\' then
        match rest with
        | [] => .error ⟨.unterminatedString, opened⟩
        | .char 'u' :: a :: b :: c :: d :: e :: tail =>
          match fourHex? a b c d with
          | none => .error ⟨.invalidCodeEscape, tail.length + 6⟩
          | some n =>
            match isHighSurrogate n, e :: tail with
            | true, .char '\\' :: .char 'u' :: a' :: b' :: c' :: d' :: f :: tail' =>
              match fourHex? a' b' c' d' with
              | none => .error ⟨.invalidCodeEscape, tail'.length + 6⟩
              | some m =>
                if isLowSurrogate m then
                  push (.ofCode (0x10000 + (n - 0xD800) * 1024 + (m - 0xDC00))) (f :: tail')
                else push (.ofCode n) (e :: tail)
            | _, _ => push (.ofCode n) (e :: tail)
        | .char 'u' :: tail => .error ⟨.invalidCodeEscape, tail.length + 1⟩
        | e :: tail =>
          match e.char?.bind simpleEscape? with
          | some c => push (.char c) tail
          | none => .error ⟨.invalidEscape, tail.length + 2⟩
      else if c.toNat < 0x20 then .error ⟨.invalidControl, rest.length + 1⟩
      else push s rest

/-- Reads a string whose opening quote has been taken off. -/
def string (p : Phrase) : Except ReadError (Phrase × Phrase) :=
  stringFrom (p.length + 1) (p.length + 1) p

/-- Takes ASCII digits off the front. -/
def digits (cs : List Char) : List Char × List Char :=
  (cs.takeWhile Text.isAsciiDigit, cs.dropWhile Text.isAsciiDigit)

/-- The number that ASCII digits denote. -/
def digitsValue (ds : List Char) : Nat :=
  Text.natOfDigits (ds.map fun c => c.toNat - 0x30)

/-- The fraction of a number, if the point has a digit behind it. -/
def fraction? (cs : List Char) : Option (List Char × List Char) :=
  match cs with
  | '.' :: rest =>
    let (ds, tail) := digits rest
    if ds.isEmpty then none else some (ds, tail)
  | _ => none

/-- The exponent of a number, if its mark has a digit behind it. -/
def exponent? (cs : List Char) : Option (Int × List Char) :=
  match cs with
  | c :: rest =>
    if c == 'e' || c == 'E' then
      let (negative, rest) := Text.splitSign rest
      let (ds, tail) := digits rest
      if ds.isEmpty then none
      else some (if negative then -(digitsValue ds : Int) else digitsValue ds, tail)
    else none
  | [] => none

/-- The digits before the point: a zero, or digits that start with another one. -/
def wholePart? : List Char → Option (List Char × List Char)
  | [] => none
  | c :: rest =>
    if c == '0' then some (['0'], rest)
    else if Text.isAsciiDigit c then
      let (ds, tail) := digits rest
      some (c :: ds, tail)
    else none

/-- Reads an unsigned number; the sign is applied to what was read. -/
def number? (negative : Bool) (cs : List Char) : Option (Json × List Char) := do
  let (whole, rest) ← wholePart? cs
  match fraction? rest, exponent? rest with
  | none, none =>
    let n : Int := digitsValue whole
    return (.int (if negative then -n else n), rest)
  | none, some (e, tail) =>
    return (.float (Decimal.nearestDecimal negative (digitsValue whole) e whole.length), tail)
  | some (fraction, rest), _ =>
    let (e, tail) := (exponent? rest).getD (0, rest)
    let ds := whole ++ fraction
    return (.float (Decimal.nearestDecimal negative (digitsValue ds) (e - fraction.length)
      ds.length), tail)

/-- The words that are values by themselves. -/
def words : List (List Char × Json) :=
  [("null".toList, .null), ("true".toList, .bool true), ("false".toList, .bool false),
   ("NaN".toList, .float Decimal.undefined), ("Infinity".toList, .float Decimal.infinity),
   ("-Infinity".toList, .float (-Decimal.infinity))]

/-- Whether a character belongs to a word or a number. -/
def isScalarChar (c : Char) : Bool :=
  c.isAlphanum || c == '+' || c == '-' || c == '.'

/-- The characters of words and numbers at the front. -/
def scalarChars : Phrase → List Char
  | .char c :: rest => if isScalarChar c then c :: scalarChars rest else []
  | _ => []

/-- Reads a word or a number. -/
def scalar? (cs : List Char) : Option (Json × List Char) :=
  match words.findSome? fun (word, value) => (Text.after? word cs).map (value, ·) with
  | some found => some found
  | none =>
    match cs with
    | '-' :: rest => number? true rest
    | _ => number? false cs

variable [Platform]

/-- Checks that an integer is short enough to be read. -/
def checkNumber : Json → Except NumberFault Unit
  | .int n => Platform.checkReading (Platform.digitCount n)
  | _ => .ok ()

/-- Reads a word or a number at the front of signs. -/
def scalar (p : Phrase) : Except ReadError (Json × Phrase) :=
  let cs := scalarChars p
  match scalar? cs with
  | none => .error ⟨.expectingValue, p.length⟩
  | some (v, tail) =>
    match checkNumber v with
    | .error fault => .error ⟨.number fault, p.length⟩
    | .ok _ => .ok (v, p.drop (cs.length - tail.length))

mutual

/-- Reads a value that starts at the front; so many arrays and objects may lie within it. -/
def value : Nat → Nat → Phrase → Except ReadError (Json × Phrase)
  | 0, _, p => .error ⟨.expectingValue, p.length⟩
  | fuel + 1, room, p =>
    match p with
    | .char '"' :: rest => (string rest).map fun (s, tail) => (.str s, tail)
    | .char '[' :: rest =>
      if room == 0 then .error ⟨.tooDeep true, rest.length⟩
      else
        match skipSpace rest with
        | .char ']' :: tail => .ok (.arr [], tail)
        | body => (items fuel (room - 1) body).map fun (xs, tail) => (.arr xs, tail)
    | .char '{' :: rest =>
      if room == 0 then .error ⟨.tooDeep false, rest.length⟩
      else
        match skipSpace rest with
        | .char '}' :: tail => .ok (.obj [], tail)
        | body => (members fuel (room - 1) [] body).map fun (ms, tail) => (.obj ms, tail)
    | p => scalar p

/-- Reads the items of an array up to its closing bracket. -/
def items : Nat → Nat → Phrase → Except ReadError (List Json × Phrase)
  | 0, _, p => .error ⟨.expectingValue, p.length⟩
  | fuel + 1, room, p => do
    let (x, rest) ← value fuel room p
    match skipSpace rest with
    | .char ']' :: tail => return ([x], tail)
    | .char ',' :: tail =>
      let (xs, tail) ← items fuel room (skipSpace tail)
      return (x :: xs, tail)
    | rest => throw ⟨.expectingComma, rest.length⟩

/-- Reads the members of an object up to its closing brace, after those read before. -/
def members : Nat → Nat → Members → Phrase → Except ReadError (Members × Phrase)
  | 0, _, _, p => .error ⟨.expectingName, p.length⟩
  | fuel + 1, room, before, p => do
    match p with
    | .char '"' :: rest =>
      let (name, rest) ← string rest
      match skipSpace rest with
      | .char ':' :: rest =>
        let (v, rest) ← value fuel room (skipSpace rest)
        let before := Entries.insert before name v
        match skipSpace rest with
        | .char '}' :: tail => return (before, tail)
        | .char ',' :: tail => members fuel room before (skipSpace tail)
        | rest => throw ⟨.expectingComma, rest.length⟩
      | rest => throw ⟨.expectingColon, rest.length⟩
    | p => throw ⟨.expectingName, p.length⟩

end

/-- Reads a whole document in which so many arrays and objects may lie within each other. -/
def readWithin (room : Nat) (p : Phrase) : Except ReadError Json := do
  let body := skipSpace p
  let (v, rest) ← value (2 * body.length + 2) room body
  match skipSpace rest with
  | [] => return v
  | rest => throw ⟨.extraData, rest.length⟩

/-- Reads a whole document. -/
def readPhrase (p : Phrase) : Except ReadError Json :=
  readWithin Platform.jsonLevels p

omit [Platform] in
/-- Line and column of a position, both from one. -/
def lineAndColumn (before : Phrase) : Nat × Nat :=
  let lineBreak := Sign.char '\n'
  (before.count lineBreak + 1, (before.reverse.takeWhile (· != lineBreak)).length + 1)

omit [Platform] in
/-- The refusal of a document for an error in it; the wording mostly gives the place of it. -/
def ReadError.refusal (document : Phrase) (e : ReadError) : Refusal :=
  match e.fault with
  | .number fault => ⟨.value, fault.message⟩
  | .tooDeep _ => ⟨.recursion, e.fault.message⟩
  | _ =>
    let position := document.length - e.left
    let (line, column) := lineAndColumn (document.take position)
    ⟨.json, e.fault.message ++ ": line " ++ toString line ++ " column " ++ toString column ++
      " (char " ++ toString position ++ ")"⟩

/-- Reads a document from text. -/
def read (s : String) : Except Refusal Json :=
  let document : Phrase := s
  match document with
  | .char '\uFEFF' :: _ => .error (ReadError.refusal document ⟨.byteOrderMark, document.length⟩)
  | _ => (readPhrase document).mapError (ReadError.refusal document)

/-- Reads a document from bytes. -/
def readBytes (bs : List UInt8) : Except Refusal Json :=
  match Text.decodeDocument bs with
  | .error e => .error ⟨.value, e.message⟩
  | .ok document => (readPhrase document).mapError (ReadError.refusal document)

end Bazaar.Json
