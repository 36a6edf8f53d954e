import Bazaar.Failure.Basic
import Bazaar.Hit.Basic

/-!
# Results

What a search gives back.  A failed search is a result too: it has no hits and carries the failure.
-/

namespace Bazaar

/-- The outcome of one search. -/
structure SearchResult where
  index : String
  query : String
  hits : List Hit := []
  totalHits : Int := 0
  page : Int := 0
  totalPages : Int := 0
  hitsPerPage : Int := 0
  processingTime : Option Int := none
  attempts : Int := 0
  failure : Option Failure := none

/-- Whether a result stands in for a failed search. -/
def SearchResult.degraded (r : SearchResult) : Bool :=
  r.failure.isSome

/-- The results of a search over several indices, in the order of the indices. -/
abbrev Aggregate := Entries SearchResult

namespace Aggregate

/-- The indices whose search failed. -/
def failed (a : Aggregate) : List String :=
  (a.filter fun (_, r) => r.degraded).map (·.1)

/-- The sum of the totals of all indices. -/
def totalHits (a : Aggregate) : Int :=
  a.foldl (fun sum (_, r) => sum + r.totalHits) 0

end Aggregate

/-- The totals of the back-office overview. -/
structure DashboardCounts where
  totalShops : Int := 0
  activeShops : Int := 0
  totalProducts : Int := 0
  activeProducts : Int := 0
  totalShopProducts : Int := 0
  activeShopProducts : Int := 0
  deriving DecidableEq, Repr

end Bazaar
