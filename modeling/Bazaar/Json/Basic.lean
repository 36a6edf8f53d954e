import Bazaar.Decimal.Shortest
import Bazaar.Entries
import Bazaar.Text.Line
import Bazaar.Text.Phrase

/-!
# JSON values

Values as documents hold them.  Integers and doubles are kept apart, texts and names may hold halves
of characters, and the members of an object keep the order in which they were written; a repeated
name keeps its first place and its last value.
-/

namespace Bazaar

/-- A JSON value with ordered members. -/
inductive Json where
  | null
  | bool (b : Bool)
  | int (n : Int)
  | float (x : Float)
  | str (s : Phrase)
  | arr (items : List Json)
  | obj (members : List (Phrase × Json))
  deriving Inhabited

/-- The named members of an object. -/
abbrev Members := Entries Json Phrase

namespace Json

/-- A text as a value. -/
def ofString (s : String) : Json :=
  .str s

/-- The value of a name in an object. -/
def get? (name : Phrase) : Json → Option Json
  | .obj members => Entries.get? members name
  | _ => none

/-- The word for the type of a value in messages about unexpected documents. -/
def typeName : Json → String
  | .null => "NoneType"
  | .bool _ => "bool"
  | .int _ => "int"
  | .float _ => "float"
  | .str _ => "str"
  | .arr _ => "list"
  | .obj _ => "dict"

/-! ## Depth -/

mutual

/-- How many arrays and objects lie within each other. -/
def depth : Json → Nat
  | .arr items => depthOfItems items + 1
  | .obj members => depthOfMembers members + 1
  | _ => 0

/-- How many arrays and objects lie within each other in items. -/
def depthOfItems : List Json → Nat
  | [] => 0
  | v :: rest => max (depth v) (depthOfItems rest)

/-- How many arrays and objects lie within each other in the values of members. -/
def depthOfMembers : List (Phrase × Json) → Nat
  | [] => 0
  | (_, v) :: rest => max (depth v) (depthOfMembers rest)

end

/-! ## Reports -/

mutual

/-- A value in reports. -/
def shown : Json → String
  | .null => "None"
  | .bool b => if b then "True" else "False"
  | .int n => toString n
  | .float x => Decimal.text x
  | .str s => s.quoted
  | .arr items => "[" ++ String.intercalate ", " (shownItems items) ++ "]"
  | .obj members => "\x7b" ++ String.intercalate ", " (shownMembers members) ++ "\x7d"

/-- Items in reports. -/
def shownItems : List Json → List String
  | [] => []
  | v :: rest => shown v :: shownItems rest

/-- Members in reports, name and value with a colon between them. -/
def shownMembers : List (Phrase × Json) → List String
  | [] => []
  | (name, v) :: rest => (name.quoted ++ ": " ++ shown v) :: shownMembers rest

end

end Json

end Bazaar
