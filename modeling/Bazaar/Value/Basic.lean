import Bazaar.Calendar.DateTime
import Bazaar.Entries
import Bazaar.Number
import Bazaar.SortKey

/-!
# Untyped values

What a caller or a configuration file may hand in where nothing is known about its type: filter
criteria, identifiers, configuration sections.  The entries of a mapping keep their order, and a
key may be any value; equal numbers are one key whatever their type.
-/

namespace Bazaar

/-- A value of unknown type. -/
inductive Value where
  | null
  | bool (b : Bool)
  | int (n : Int)
  | float (x : Float)
  | str (s : String)
  | bytes (bs : List UInt8)
  | sortKey (k : SortKey)
  | date (d : Calendar.Date)
  | dateTime (t : Calendar.DateTime)
  | list (items : List Value)
  | tuple (items : List Value)
  | set (items : List Value)
  | frozenSet (items : List Value)
  | map (entries : List (Value × Value))
  deriving Inhabited

/-- The entries of a mapping in order. -/
abbrev Mapping := List (Value × Value)

namespace Value

/-- The number of a value that counts as one when keys are compared; flags count as 0 and 1. -/
def keyNumber? : Value → Option Number
  | .bool b => some (.int (if b then 1 else 0))
  | .int n => some (.int n)
  | .float x => some (.float x)
  | _ => none

/-- The number of a value that is an integer or a double; a flag is none. -/
def number? : Value → Option Number
  | .int n => some (.int n)
  | .float x => some (.float x)
  | _ => none

/-- The text of a value that is a text when keys are compared; a sort order is its word. -/
def keyText? : Value → Option String
  | .str s => some s
  | .sortKey k => some k.name
  | _ => none

mutual

/-- Whether two values are one key. -/
def sameKey : Value → Value → Bool
  | .null, .null => true
  | .bytes a, .bytes b => a == b
  | .date a, .date b => a == b
  | .dateTime a, .dateTime b => a.same b
  | .list a, .list b => sameKeys a b
  | .tuple a, .tuple b => sameKeys a b
  | .frozenSet a, .frozenSet b => a.length == b.length && allAmong a b
  | a, b =>
    match a.keyNumber?, b.keyNumber? with
    | some m, some n => m.same n
    | none, none =>
      match a.keyText?, b.keyText? with
      | some s, some t => s == t
      | _, _ => false
    | _, _ => false

/-- Whether two lists hold the same keys in the same places. -/
def sameKeys : List Value → List Value → Bool
  | [], [] => true
  | a :: as, b :: bs => sameKey a b && sameKeys as bs
  | _, _ => false

/-- Whether each key of a list is among those of another, in any place. -/
def allAmong : List Value → List Value → Bool
  | [], _ => true
  | a :: as, bs => bs.any (fun b => sameKey a b) && allAmong as bs

end

/-- Whether a value counts as present: not zero, not empty, not false. -/
def isTrue : Value → Bool
  | .null => false
  | .bool b => b
  | .int n => n != 0
  | .float x => x != 0
  | .str s => !s.isEmpty
  | .bytes bs => !bs.isEmpty
  | .list items | .tuple items | .set items | .frozenSet items => !items.isEmpty
  | .map entries => !entries.isEmpty
  | .sortKey _ | .date _ | .dateTime _ => true

end Value

namespace Mapping

/-- The value of a key. -/
def find? (m : Mapping) (key : Value) : Option Value :=
  Keyed.find? Value.sameKey key m

/-- The value of a named key. -/
def get? (m : Mapping) (name : String) : Option Value :=
  find? m (.str name)

/-- Sets a key. -/
def insert (m : Mapping) (key value : Value) : Mapping :=
  Keyed.insert Value.sameKey key value m

/-- A mapping from pairs; a repeated key keeps its first place and its last value. -/
def ofPairs (pairs : List (Value × Value)) : Mapping :=
  Keyed.ofPairs Value.sameKey pairs

/-- A mapping from named values. -/
def ofNamed (pairs : List (String × Value)) : Mapping :=
  pairs.map fun (name, v) => (.str name, v)

/-- The keys in order. -/
def keys (m : Mapping) : List Value :=
  m.map (·.1)

/-- Lays the second mapping over the first.  Where both have a mapping under a key the two are
merged in turn; any other value replaces the one below it.  Keys of the lower mapping keep their
places and new keys follow. -/
def merge (base : Mapping) : List (Value × Value) → Mapping
  | [] => base
  | (key, .map upper) :: rest =>
    match base.find? key with
    | some (.map lower) => merge (base.insert key (.map (merge lower upper))) rest
    | _ => merge (base.insert key (.map upper)) rest
  | (key, value) :: rest => merge (base.insert key value) rest

end Mapping

/-- The first of each group of equal values, in order. -/
def Value.distinct (items : List Value) : List Value :=
  items.foldl (fun seen v => if seen.any (·.sameKey v) then seen else seen ++ [v]) []

end Bazaar
