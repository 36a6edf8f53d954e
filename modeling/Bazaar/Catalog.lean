import Bazaar.Entries

/-!
# The index catalog

What is known about each index: the name under which the search service holds it, the kind of its
records, the attribute that identifies a record, and whether sorted copies exist.
-/

namespace Bazaar

/-- The kinds of record that the indices hold. -/
inductive HitKind where
  | shop
  | product
  | shopProduct
  | order
  | generic
  deriving DecidableEq, Repr

namespace HitKind

/-- All kinds. -/
def all : List HitKind := [.shop, .product, .shopProduct, .order, .generic]

/-- The word for a kind. -/
def name : HitKind → String
  | .shop => "shop"
  | .product => "product"
  | .shopProduct => "shop_product"
  | .order => "order"
  | .generic => "generic"

/-- The kind of a word. -/
def ofName? (s : String) : Option HitKind :=
  all.find? (·.name == s)

/-- The kind of a word; an unknown word stands for records without a type of their own. -/
def ofName (s : String) : HitKind :=
  (ofName? s).getD .generic

theorem ofName?_name (k : HitKind) : ofName? k.name = some k := by
  cases k <;> rfl

end HitKind

/-- What is known about one index. -/
structure IndexSpec where
  name : String
  kind : String := "generic"
  idField : String := "objectID"
  sortable : Bool := true
  deriving DecidableEq, Repr

/-- The indices by the names under which callers know them. -/
abbrev Catalog := Entries IndexSpec

namespace Catalog

/-- What is known about an index. -/
def spec? (catalog : Catalog) (index : String) : Option IndexSpec :=
  catalog.get? index

/-- The attribute that identifies a record of an index. -/
def idField (catalog : Catalog) (index : String) : String :=
  match catalog.spec? index with
  | some spec => spec.idField
  | none => "objectID"

end Catalog

end Bazaar
