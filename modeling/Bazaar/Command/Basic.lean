import Bazaar.Render.Writer
import Bazaar.Service.Basic

/-!
# Commands

What can be asked for on the command line, as plans over the search service.  A command ends with
something to write, with what is reported after it, and with a flag that says whether all went
well.
-/

namespace Bazaar

/-- A command. -/
inductive Command where
  | search (index term : String) (options : SearchOptions)
  | searchAll (term : String) (hitsPerPage : Option Int)
  | lookup (index : String) (ids : List String)
  | counts
  | health

namespace Command

/-- The names of the commands. -/
inductive Name where
  | search
  | searchAll
  | lookup
  | counts
  | health
  deriving DecidableEq, Repr

namespace Name

/-- All names. -/
def all : List Name := [.search, .searchAll, .lookup, .counts, .health]

/-- The word for a command. -/
def word : Name → String
  | .search => "search"
  | .searchAll => "search-all"
  | .lookup => "lookup"
  | .counts => "counts"
  | .health => "health"

/-- The command of a word. -/
def ofWord? (s : String) : Option Name :=
  all.find? (·.word == s)

theorem ofWord?_word (n : Name) : ofWord? n.word = some n := by
  cases n <;> rfl

end Name

/-- The name of a command. -/
def name : Command → Name
  | search .. => .search
  | searchAll .. => .searchAll
  | lookup .. => .lookup
  | counts => .counts
  | health => .health

/-- How a command ends. -/
structure Outcome where
  output : Render.Output
  after : List LogEntry := []
  succeeded : Bool

/-- A number that may be missing, in messages. -/
def shownCount (n : Option Int) : String :=
  (n.map toString).getD "None"

/-- The order that a caller asks for, in messages. -/
def shownSort : SortRequest → String
  | .unspecified => "None"
  | .key k => (Value.sortKey k).shown
  | .word s => Text.quoted s

/-- The options of a search, in messages.  An empty filter is shown as a missing one. -/
def shownOptions (o : SearchOptions) : String :=
  "SearchOptions(hits_per_page=" ++ shownCount o.hitsPerPage ++ ", page=" ++ toString o.page ++
    ", filters=" ++ (if o.filters.isEmpty then "None" else (Value.map o.filters).shown) ++
    ", attributes_to_retrieve=" ++ (Value.tuple (o.attributes.map .str)).shown ++
    ", sort_by=" ++ shownSort o.sortBy ++ ")"

/-- What a command reports before it does anything. -/
def before : Command → List LogEntry
  | search index term options =>
    [⟨.debug, "Search index=" ++ index ++ " term=" ++ Text.quoted term ++ " options=" ++
      shownOptions options⟩]
  | _ => []

/-- How a lookup ends: well, if there is a hit for every identifier. -/
def lookupOutcome (index : String) (ids : List String) (hits : List Hit) : Outcome :=
  let missing : Int := (Lookup.distinctIds ids).length - hits.length
  { output := .lookup index hits
    after := if 0 < missing then [⟨.info, "Ids not found: " ++ toString missing⟩] else []
    succeeded := missing ≤ 0 }

/-- The plan of a command. -/
def plan [Platform] (s : Service) : Command → Except LookupFault (Plan Outcome)
  | search index term options =>
    .ok ((s.search index term (some options)).map fun r =>
      { output := .result r, succeeded := !r.degraded })
  | searchAll term hitsPerPage =>
    .ok ((s.searchAll term (hitsPerPage.map s.fanOutOptions)).map fun a =>
      { output := .aggregate a, succeeded := a.failed.isEmpty })
  | lookup index ids => do
    let hits ← s.getByIds index ids none
    return hits.map (lookupOutcome index ids)
  | counts => .ok (s.dashboardCounts.map fun c => { output := .counts c, succeeded := true })
  | health =>
    .ok ((s.isHealthy none).map fun healthy =>
      { output := .health healthy, succeeded := healthy })

end Command

end Bazaar
