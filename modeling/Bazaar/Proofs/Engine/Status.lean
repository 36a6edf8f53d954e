import Bazaar.Platform.Usual
import Bazaar.Proofs.Client
import Bazaar.Proofs.Engine.Requests
import Bazaar.Proofs.Hit.Range

/-!
# The status of an answer

What the status of an answer decides: which failure a query ends with, whether a search makes
another attempt, and whether an index counts as reachable.  It decides all three as far as the body
can be read as text, and an answer that names another address which is none counts as no answer.
-/

namespace Bazaar

namespace Engine

variable [Platform] {e : Engine} {r : Request} {supply : Supply}

/-- An attempt calls for another one exactly after a failure that may pass by itself. -/
theorem callsForAnother_outcome_iff (made : Nat) :
    callsForAnother (e.outcome r supply (made + 1)) = true ↔
      ∃ f, (supply.deliveries made).payload (e.requestOf r (made + 1)) = .error (.failure f) ∧
        f.kind.isTransient = true := by
  rw [outcome, Nat.add_sub_cancel]
  rcases (supply.deliveries made).payload (e.requestOf r (made + 1)) with
    (f | fault | o) | members
  · simp [readPayload, callsForAnother_failure]
  · simp [readPayload, callsForAnother]
  · simp [readPayload, callsForAnother]
  · refine iff_of_false ?_ (by simp)
    simp only [readPayload]
    cases read : (Response.ofMembers members (HitKind.ofName (e.spec r.index).kind)
        r.hitsPerPage).2 with
    | ok answer => simp [callsForAnother]
    | error raised =>
        rcases raised with f | fault | o
        · rw [Response.eq_noHits _ read]
          decide
        · simp [callsForAnother]
        · simp [callsForAnother]

end Engine

end Bazaar
