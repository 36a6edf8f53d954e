import Bazaar.Query.Request

/-!
# Sorted copies of an index

An index that can be sorted has a copy for each sort order, named by the index and the order.
-/

namespace Bazaar.Replica

/-- The indices without sorted copies when nothing else is known about them. -/
def defaultUnsortable : List String := ["shop_products"]

/-- The name of the copy for an order, or of the index itself when the order is unknown or the
index has no copies. -/
def select (index : String) (sortBy : SortRequest) (unsortable : List String) : String :=
  if unsortable.contains index then index
  else
    match sortBy.key? with
    | none => index
    | some k => index ++ "_" ++ k.suffix

end Bazaar.Replica
