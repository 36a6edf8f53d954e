import Bazaar.Failure.Fault
import Bazaar.Hit.Reading

/-!
# Answers of the search service

The typed content of an answer: its hits and what it says about paging.
-/

namespace Bazaar

/-- Hits and paging of one answer. -/
structure Response where
  hits : List Hit
  totalHits : Int
  page : Int
  totalPages : Int
  hitsPerPage : Int
  processingTime : Option Int

namespace Response

/-- The failure of an answer without hits. -/
def noHits : Failure :=
  ⟨.decode, "response has no 'hits' array", none⟩

/-- What an answer says about paging; what it leaves out is taken from its hits and from the
request. -/
def withPaging (payload : Members) (hits : List Hit) (hitsPerPage : Int) : Reading Response := do
  return {
    hits := hits
    totalHits := ← payload.intOr "nbHits" hits.length
    page := ← payload.intOr "page" 0
    totalPages := ← payload.intOr "nbPages" 0
    hitsPerPage := ← payload.intOr "hitsPerPage" hitsPerPage
    processingTime := ← payload.int? "processingTimeMS" }

/-- Reads an answer.  Beside the answer or the reason why there is none, this gives what is
reported on the way. -/
def ofMembers [Platform] (payload : Members) (kind : HitKind) (hitsPerPage : Int) :
    List LogEntry × Except Raised Response :=
  match payload.get? "hits" with
  | some (.arr raw) =>
    match Hit.listOfJson kind raw with
    | (log, .ok hits) => (log, (withPaging payload hits hitsPerPage).mapError NumberFault.raised)
    | (log, .error raised) => (log, .error raised)
  | _ => ([], .error (.failure noHits))

end Response

end Bazaar
