import Bazaar.Service.Plan

/-!
# The search service

What callers can ask for: one search, a search over several indices, records by identifier, totals,
and the health of the service.  Each is a plan, so nothing here depends on how requests are run.
-/

namespace Bazaar

/-- The settings of the service. -/
structure Service where
  catalog : Catalog := []
  hitsPerPage : Int := 100
  fanOutIndices : List String := ["shops", "products", "shop_products"]
  healthIndices : List String := ["shop_products", "orders"]
  fanOutHitsPerPage : Int := 20
  idChunkSize : Int := 100
  quietPeriod : Number := .float 0.3

/-- Why records cannot be looked up. -/
inductive LookupFault where
  | chunkSize
  deriving DecidableEq, Repr

/-- The wording of a lookup fault. -/
def LookupFault.message : LookupFault → String
  | .chunkSize => "chunk_size must be positive"

/-- Options by index; an index without options is searched with the usual ones. -/
abbrev IndexOptions := Entries (Option SearchOptions)

namespace Lookup

/-- The identifiers without blank ones and without repetitions, in the order of their first
occurrence. -/
def distinctIds (ids : List String) : List String :=
  (ids.filter fun id => !(Text.trim id).isEmpty).eraseDups

/-- Cuts a list into parts of a size; the last part may be shorter. -/
def chunks (size : Nat) : Nat → List α → List (List α)
  | 0, _ => []
  | _, [] => []
  | fuel + 1, xs => xs.take size :: chunks size fuel (xs.drop size)

/-- The hits whose identifiers were not seen before, in order. -/
def distinctHits (seen : List Phrase) : List Hit → List Hit
  | [] => []
  | h :: rest =>
    if seen.contains h.objectId then distinctHits seen rest
    else h :: distinctHits (h.objectId :: seen) rest

/-- The request for the records of some identifiers. -/
def request (index idField : String) (ids : List String) : Request where
  index := index
  filters := Filter.anyId idField ids
  hitsPerPage := ids.length

/-- Reported before a lookup. -/
def startEntry (index : String) (ids chunks : Nat) : LogEntry :=
  ⟨.debug, "Id lookup: index=" ++ index ++ " ids=" ++ toString ids ++ " chunks=" ++
    toString chunks⟩

/-- Reported when parts of a lookup failed. -/
def degradedEntry (index : String) (failed chunks : Nat) : LogEntry :=
  ⟨.warning, "Id lookup degraded: index=" ++ index ++ " failed_chunks=" ++ toString failed ++
    "/" ++ toString chunks⟩

/-- The hits of all parts, and a report of those that failed. -/
def collect (index : String) (results : List SearchResult) : List LogEntry × List Hit :=
  let failed := (results.filter SearchResult.degraded).length
  let entries := if failed == 0 then [] else [degradedEntry index failed results.length]
  (entries, distinctHits [] (results.flatMap SearchResult.hits))

end Lookup

namespace Service

section

variable [Platform]

/-- The request for a search. -/
def request (s : Service) (index term : String) (options : Option SearchOptions) :
    Except NumberFault Request :=
  Request.build index term (options.getD {}) s.hitsPerPage

/-- Searches one index. -/
def search (s : Service) (index term : String) (options : Option SearchOptions) :
    Plan SearchResult :=
  .alone (s.request index term options) id

/-- Options with one page size for all indices that are searched together by default. -/
def fanOutOptions (s : Service) (hitsPerPage : Int) : IndexOptions :=
  Entries.ofPairs
    (s.fanOutIndices.map fun index => (index, some { hitsPerPage := some hitsPerPage }))

/-- Reported after a search over several indices. -/
def fanOutEntries (a : Aggregate) : List LogEntry :=
  (if a.failed.isEmpty then []
   else
    [⟨.warning, "Fan-out search degraded: failed=" ++ String.intercalate ", " a.failed⟩]) ++
  [⟨.info, "Fan-out search completed: indices=" ++ toString a.length ++ " total_hits=" ++
    toString a.totalHits⟩]

/-- Searches several indices at once. -/
def searchAll (s : Service) (term : String) (perIndex : Option IndexOptions) : Plan Aggregate :=
  let options := perIndex.getD (s.fanOutOptions s.fanOutHitsPerPage)
  .together [] (options.map fun (index, o) => s.request index term o) fun results =>
    let a : Aggregate := options.names.zip results
    (fanOutEntries a, a)

/-- Looks up records by identifier, in parts of a size. -/
def getByIds (s : Service) (index : String) (ids : List String) (chunkSize : Option Int) :
    Except LookupFault (Plan (List Hit)) :=
  let size := chunkSize.getD s.idChunkSize
  if size ≤ 0 then .error .chunkSize
  else
    let distinct := Lookup.distinctIds ids
    if distinct.isEmpty then .ok (.answer [])
    else
      let chunks := Lookup.chunks size.toNat distinct.length distinct
      let idField := s.catalog.idField index
      .ok (.together [Lookup.startEntry index distinct.length chunks.length]
        (chunks.map fun chunk => .ok (Lookup.request index idField chunk))
        (Lookup.collect index))

/-- Looks up one record by identifier. -/
def getById (s : Service) (index : String) (id : Value) : Plan (Option Hit) :=
  let options : SearchOptions :=
    { hitsPerPage := some 1, filters := [(.str (s.catalog.idField index), id)] }
  .alone (s.request index "" (some options)) fun r => r.hits.head?

/-- The searches behind the totals: all records of an index, or the active ones. -/
def countQueries : List (String × Bool) :=
  [("shops", false), ("shops", true), ("products", false), ("products", true),
   ("shop_products", false), ("shop_products", true)]

/-- The options of a search that only counts. -/
def countOptions (active : Bool) : SearchOptions :=
  { hitsPerPage := some 0
    filters := if active then [(.str "status", .str "active")] else [] }

/-- The totals of the overview. -/
def dashboardCounts (s : Service) : Plan DashboardCounts :=
  .together [] (countQueries.map fun (index, active) =>
      s.request index "" (some (countOptions active)))
    fun results =>
      let total (i : Nat) : Int := (results[i]?.map SearchResult.totalHits).getD 0
      ([], ⟨total 0, total 1, total 2, total 3, total 4, total 5⟩)

end

/-- Reported when a check of an index raised. -/
def healthEntry (index : String) (r : Raised) : LogEntry :=
  ⟨.warning, "Health check failed: index=" ++ index ++ " error=" ++ r.text⟩

/-- The reports of checks that raised. -/
def healthEntries : List (String × Except Raised Bool) → List LogEntry
  | [] => []
  | (index, .error r) :: rest => healthEntry index r :: healthEntries rest
  | (_, .ok _) :: rest => healthEntries rest

/-- Checks indices at once; the service is healthy if all of them answer. -/
def isHealthy (s : Service) (indices : Option (List String)) : Plan Bool :=
  let names := indices.getD s.healthIndices
  .checks names fun outcomes =>
    (healthEntries (names.zip outcomes),
     outcomes.all fun o => match o with | .ok b => b | .error _ => false)

/-- Reported when the backend could not be closed. -/
def closeEntry (backend : String) (r : Raised) : LogEntry :=
  ⟨.warning, "Search backend close failed: backend=" ++ backend ++ " error=" ++ r.text⟩

end Service

end Bazaar
