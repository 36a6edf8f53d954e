import Bazaar.Text.Blank
import Bazaar.Text.Case

/-!
# Sort orders

The orders for which sorted copies of an index exist.
-/

namespace Bazaar

/-- A sort order of search results. -/
inductive SortKey where
  | date
  | alphabetical
  | priceAscending
  | priceDescending
  deriving DecidableEq, Repr

namespace SortKey

/-- All sort orders, in the order in which they are offered. -/
def all : List SortKey := [.date, .alphabetical, .priceAscending, .priceDescending]

/-- The word for a sort order. -/
def name : SortKey → String
  | .date => "date"
  | .alphabetical => "alphabetical"
  | .priceAscending => "price_asc"
  | .priceDescending => "price_desc"

/-- The label of a sort order in messages. -/
def label (k : SortKey) : String :=
  "SortKey." ++ Text.upper k.name

/-- The end of the name of the index that holds the records in this order. -/
def suffix : SortKey → String
  | .date => "createdAt_desc"
  | .alphabetical => "alphabetical"
  | .priceAscending => "price_asc"
  | .priceDescending => "price_desc"

/-- The sort order of a word. -/
def ofName? (s : String) : Option SortKey :=
  all.find? (·.name == s)

/-- The sort order of a word in any case with blanks around it. -/
def ofText? (s : String) : Option SortKey :=
  ofName? (Text.lower (Text.trim s))

theorem ofName?_name (k : SortKey) : ofName? k.name = some k := by
  cases k <;> rfl

end SortKey

end Bazaar
