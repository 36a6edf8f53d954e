import Bazaar.Query.Request
import Bazaar.Result.Basic
import Bazaar.Task

/-!
# Plans

A search over several indices or in several parts as a plan: the requests to run, and what becomes
of their results.  The parts of a plan know nothing of each other, so how they are interleaved is
left to whoever runs it.
-/

namespace Bazaar

/-- Something that runs requests: a search engine, or a stand-in for one. -/
structure Backend where
  name : String
  execute : Request → Task (Except Raised SearchResult)
  isReachable : String → Task (Except Raised Bool)

namespace Backend

/-- The result that stands in for a search whose backend raised. -/
def degraded (r : Request) (raised : Raised) : SearchResult where
  index := r.index
  query := r.term
  page := r.page
  hitsPerPage := r.hitsPerPage
  failure := some raised.toFailure

/-- Reported when a backend raises. -/
def raisedEntry (r : Request) (raised : Raised) : LogEntry :=
  ⟨.error, "Search backend raised: index=" ++ r.index ++ " error=" ++ raised.text⟩

/-- Runs a request; if the backend raises, the search fails but gives a result. -/
def guarded (b : Backend) (r : Request) : Task SearchResult := do
  match ← b.execute r with
  | .ok result => return result
  | .error raised => .log (raisedEntry r raised) (pure (degraded r raised))

/-- Runs a request that may not exist because its filter could not be built. -/
def run (b : Backend) (r : Except NumberFault Request) : Task (Except Raised SearchResult) :=
  match r with
  | .ok r => (b.guarded r).map .ok
  | .error fault => .done (.error fault.raised)

end Backend

/-- What has to be run for an answer. -/
inductive Plan (α : Type) where
  /-- Nothing has to be run. -/
  | answer (a : α)
  /-- One search. -/
  | alone (request : Except NumberFault Request) (finish : SearchResult → α)
  /-- Several searches at once. -/
  | together (before : List LogEntry) (requests : List (Except NumberFault Request))
      (finish : List SearchResult → List LogEntry × α)
  /-- Several checks of indices at once. -/
  | checks (indices : List String) (finish : List (Except Raised Bool) → List LogEntry × α)

namespace Plan

/-- A plan with its answer changed. -/
def map (f : α → β) : Plan α → Plan β
  | .answer a => .answer (f a)
  | .alone request finish => .alone request fun r => f (finish r)
  | .together before requests finish =>
    .together before requests fun rs =>
      let (log, a) := finish rs
      (log, f a)
  | .checks indices finish =>
    .checks indices fun rs =>
      let (log, a) := finish rs
      (log, f a)

/-- The requests of a plan in order. -/
def requests : Plan α → List (Except NumberFault Request)
  | .answer _ => []
  | .alone request _ => [request]
  | .together _ requests _ => requests
  | .checks .. => []

end Plan

end Bazaar
