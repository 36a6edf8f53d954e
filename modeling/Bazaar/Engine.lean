import Bazaar.Client
import Bazaar.Query.Replica
import Bazaar.Result.Basic
import Bazaar.Result.Response
import Bazaar.Retry

/-!
# The search engine

Runs one request: finds the index that holds its records in the wanted order, sends the query,
repeats it while failures may pass by themselves, and reads the answer.  A search that fails ends
with a result that has no hits and carries the latest failure.
-/

namespace Bazaar

/-- What the engine works with. -/
structure Engine where
  client : Client
  policy : RetryPolicy := {}
  catalog : Catalog := []

namespace Engine

/-- What is known about an index; an unknown one holds generic records under its own name. -/
def spec (e : Engine) (index : String) : IndexSpec :=
  match e.catalog.spec? index with
  | some s => s
  | none => { name := index, sortable := !Replica.defaultUnsortable.contains index }

/-- The index that holds the records in the order that a request wants. -/
def physicalIndex (e : Engine) (r : Request) : String :=
  let s := e.spec r.index
  Replica.select s.name r.sortBy (if s.sortable then [] else [s.name])

/-- The result of a request that failed. -/
def degraded (r : Request) (s : RetryState) : SearchResult where
  index := r.index
  query := r.term
  page := r.page
  hitsPerPage := r.hitsPerPage
  attempts := s.attempt
  failure := s.lastError.map Raised.toFailure

/-- The result of a request that was answered. -/
def success (r : Request) (answer : Response) (attempt : Nat) : SearchResult where
  index := r.index
  query := r.term
  hits := answer.hits
  totalHits := answer.totalHits
  page := answer.page
  totalPages := answer.totalPages
  hitsPerPage := answer.hitsPerPage
  processingTime := answer.processingTime
  attempts := attempt

/-- Reported before the first attempt. -/
def startEntry (r : Request) (physical : String) : LogEntry :=
  ⟨.debug, "Search request: index=" ++ r.index ++ " physical=" ++ physical ++ " query=" ++
    Text.quoted r.term ++ " filters=" ++ Text.quoted r.filters ++ " page=" ++ toString r.page ++
    " hits_per_page=" ++ toString r.hitsPerPage⟩

/-- Reported before each attempt. -/
def attemptEntry (e : Engine) (physical : String) (attempt : Nat) : LogEntry :=
  ⟨.debug, "Search attempt " ++ toString attempt ++ "/" ++ toString e.policy.maxAttempts ++
    ": index=" ++ physical ++ " timeout=" ++
    Delivery.seconds 1 (e.policy.timeoutFor attempt) ++ "s"⟩

/-- Reported after an answer. -/
def successEntry (physical : String) (answer : Response) (attempt : Nat) : LogEntry :=
  ⟨.debug, "Search ok: index=" ++ physical ++ " hits=" ++ toString answer.hits.length ++
    " total=" ++ toString answer.totalHits ++ " processing=" ++
    ((answer.processingTime.map toString).getD "None") ++ "ms attempts=" ++ toString attempt⟩

/-- Reported before the wait for another attempt. -/
def retryEntry (e : Engine) (physical : String) (attempt : Nat) (delay : Number) (f : Failure) :
    LogEntry :=
  ⟨.info, "Search retry " ++ toString attempt ++ "/" ++ toString (e.policy.maxAttempts - 1) ++
    " after " ++ Delivery.seconds 2 delay ++ "s: index=" ++ physical ++ " error=" ++ f.text⟩

/-- Reported when a failure cannot pass by itself. -/
def refusalEntry (physical : String) (f : Failure) : LogEntry :=
  match f.kind with
  | .client =>
    ⟨.warning, "Search client error (not retried): index=" ++ physical ++ " error=" ++ f.text⟩
  | _ =>
    ⟨.warning, "Search response decode failed (not retried): index=" ++ physical ++ " error=" ++
      f.text⟩

/-- Reported when no attempt is left. -/
def exhaustedEntry (physical : String) (s : RetryState) (now : Float) : LogEntry :=
  ⟨.error, "Search failed after " ++ toString s.attempt ++ " attempts (" ++
    Decimal.fixed 2 false (s.elapsed now) ++ "s): index=" ++ physical ++ " error=" ++
    ((s.lastError.map Raised.text).getD "None")⟩

/-- Ends a search for which no attempt is left. -/
def giveUp (r : Request) (physical : String) (s : RetryState) :
    Task (Except Raised SearchResult) :=
  .clock fun now => .log (exhaustedEntry physical s now) (.done (.ok (degraded r s)))

variable [Platform]

/-- Reads what was delivered, and reports on the way. -/
def readPayload (kind : HitKind) (hitsPerPage : Int) (payload : Except Raised Members) :
    List LogEntry × Except Raised Response :=
  match payload with
  | .ok members => Response.ofMembers members kind hitsPerPage
  | .error r => ([], .error r)

omit [Platform] in
/-- What follows the outcome of an attempt: the end of the search, or `again` after a wait. -/
def settle (e : Engine) (r : Request) (physical : String)
    (again : RetryState → Task (Except Raised SearchResult)) (s : RetryState) :
    Except Raised Response → Task (Except Raised SearchResult)
  | .ok answer =>
    .log (successEntry physical answer s.attempt) (.done (.ok (success r answer s.attempt)))
  | .error (.failure f) =>
    let s := s.recordFailure (.failure f)
    if !f.kind.isTransient then .log (refusalEntry physical f) (.done (.ok (degraded r s)))
    else if !e.policy.shouldRetry f.kind s.attempt then giveUp r physical s
    else
      match e.policy.baseDelay s.attempt with
      | .error o => .done (.error (.overflow o))
      | .ok _ =>
        .draw fun x =>
          match e.policy.delayBeforeRetry s.attempt x with
          | .error o => .done (.error (.overflow o))
          | .ok delay =>
            .log (e.retryEntry physical s.attempt delay f) (.sleep delay (again s))
  | .error other => .done (.error other)

/-- Makes attempts until one succeeds, a failure cannot pass by itself, or none is left. -/
def attempts (e : Engine) (r : Request) (physical params : String) :
    Nat → RetryState → Task (Except Raised SearchResult)
  | 0, s => giveUp r physical s
  | left + 1, s =>
    let s := s.beginAttempt
    let timeout := e.policy.timeoutFor s.attempt
    match timeout.toFloat with
    | .error o => .done (.error (.overflow o))
    | .ok _ =>
      .log (e.attemptEntry physical s.attempt)
        ((e.client.postQuery physical params (some timeout)).bind fun payload =>
          let (entries, outcome) :=
            readPayload (HitKind.ofName (e.spec r.index).kind) r.hitsPerPage payload
          Task.logAll entries (e.settle r physical (attempts e r physical params left) s outcome))

/-- Runs a request.  Its parameters are written before anything else happens. -/
def execute (e : Engine) (r : Request) : Task (Except Raised SearchResult) :=
  let physical := e.physicalIndex r
  match r.params with
  | .error fault => .done (.error fault.raised)
  | .ok params =>
    .clock fun now =>
      .log (startEntry r physical)
        (e.attempts r physical params e.policy.maxAttempts.toNat { startedAt := now })

/-- Checks whether an index answers. -/
def isReachable (e : Engine) (index : String) : Task (Except Raised Bool) :=
  e.client.isReachable (e.spec index).name (some Client.checkTimeout)

end Engine

end Bazaar
