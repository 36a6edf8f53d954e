import Bazaar.Platform
import Bazaar.Text.Line
import Bazaar.Text.Quoted
import Bazaar.Value.Basic

/-!
# Values in messages

Two texts of a value: the plain one, in which a text stands as it is, and the shown one, in which
texts are quoted.  Inside a collection everything is shown.  A text is written only if the platform
writes each integer in it.
-/

namespace Bazaar.Value

/-- Texts with commas between them. -/
def commaList (items : List String) : String :=
  String.intercalate ", " items

/-- The items of a tuple in parentheses; a single item keeps its comma. -/
def tupleText (items : List String) : String :=
  match items with
  | [x] => "(" ++ x ++ ",)"
  | xs => "(" ++ commaList xs ++ ")"

/-- The items of a set in braces; an empty set is a word. -/
def setText (empty opening closing : String) (items : List String) : String :=
  if items.isEmpty then empty else opening ++ commaList items ++ closing

/-- A date in messages that show it. -/
def shownDate (d : Calendar.Date) : String :=
  "datetime.date(" ++ commaList [toString d.year, toString d.month, toString d.day] ++ ")"

/-- A date with a time in messages that show it; zero seconds are left out. -/
def shownDateTime (t : Calendar.DateTime) : String :=
  let fields := [t.date.year, t.date.month, t.date.day, t.hour, t.minute]
  let tail := if t.micro != 0 then [t.second, t.micro] else if t.second != 0 then [t.second] else []
  "datetime.datetime(" ++ commaList ((fields ++ tail).map toString) ++ ")"

mutual

/-- The shown text of a value. -/
def shown : Value → String
  | .null => "None"
  | .bool b => if b then "True" else "False"
  | .int n => toString n
  | .float x => Decimal.text x
  | .str s => Text.quoted s
  | .bytes bs => Text.quotedBytes bs
  | .sortKey k => "<" ++ k.label ++ ": " ++ Text.quoted k.name ++ ">"
  | .date d => shownDate d
  | .dateTime t => shownDateTime t
  | .list items => "[" ++ commaList (shownItems items) ++ "]"
  | .tuple items => tupleText (shownItems items)
  | .set items => setText "set()" "\x7b" "\x7d" (shownItems items)
  | .frozenSet items => setText "frozenset()" "frozenset(\x7b" "\x7d)" (shownItems items)
  | .map entries => "\x7b" ++ commaList (shownEntries entries) ++ "\x7d"

/-- The shown texts of items. -/
def shownItems : List Value → List String
  | [] => []
  | x :: xs => shown x :: shownItems xs

/-- The shown texts of entries, key and value with a colon between them. -/
def shownEntries : List (Value × Value) → List String
  | [] => []
  | (k, v) :: rest => (shown k ++ ": " ++ shown v) :: shownEntries rest

end

/-- The plain text of a value. -/
def text : Value → String
  | .str s => s
  | .sortKey k => k.label
  | .date d => d.iso
  | .dateTime t => t.textWith " "
  | v => shown v

mutual

/-- The most digits of an integer that the text of a value shows. -/
def digits : Value → Nat
  | .int n => Platform.digitCount n
  | .list items | .tuple items | .set items | .frozenSet items => digitsOfItems items
  | .map entries => digitsOfEntries entries
  | _ => 0

/-- The most digits of an integer that the texts of items show. -/
def digitsOfItems : List Value → Nat
  | [] => 0
  | x :: xs => max (digits x) (digitsOfItems xs)

/-- The most digits of an integer that the texts of entries show. -/
def digitsOfEntries : List (Value × Value) → Nat
  | [] => 0
  | (k, v) :: rest => max (max (digits k) (digits v)) (digitsOfEntries rest)

end

variable [Platform]

/-- Checks that the texts of values are written. -/
def checkTexts (items : List Value) : Except NumberFault Unit :=
  Platform.checkWriting (digitsOfItems items)

/-- The plain text of a value, if it is written. -/
def write (v : Value) : Except NumberFault String := do
  Platform.checkWriting v.digits
  return v.text

end Bazaar.Value
