import Bazaar.Client
import Bazaar.Proofs.Task
import Bazaar.Proofs.Transport.Address
import Bazaar.Proofs.Transport.Delivery

/-!
# What a client asks and receives

Queries of an index go to its address below the base of the client, if there is one.  A query comes
to what its delivery counts as, and a check of an index says whether this is a failure that may pass
by itself.
-/

namespace Bazaar

namespace Client

/-! ## Where queries go -/

section Address

open Address (indexPath indexTail)
open WrittenAddress (maxLength)

variable {c : Client} {index : String} {a : Address}

theorem reads_checkHeader_iff (s : String) :
    Reads (checkHeader s) ↔ s.toList.all Text.isAscii = true := by
  unfold checkHeader
  split
  · rename_i ascii
    exact iff_of_true (reads_ok ()) ascii
  · rename_i other
    exact iff_of_false (not_reads_error _) other

/-- Whether a client can ask at all: its base can have another path, and the host behind it is
ASCII. -/
def CanAsk (c : Client) : Prop :=
  ∃ root, c.base.withPathAndQuery ['/'] = .ok root ∧ root.hostChars.all Text.isAscii = true

theorem below_of_address (made : c.address index = .ok a) : c.base.below index = .ok a := by
  obtain ⟨_, found, made⟩ := exists_of_bind_eq_ok made
  obtain ⟨_, -, made⟩ := exists_of_bind_eq_ok made
  cases made
  exact eq_ok_of_mapError_eq_ok found

/-- Below a base, the host decides whether any index has an address, and its length whether this one
has. -/
theorem reads_address_iff (isBase : c.base.IsBase) (index : String) :
    Reads (c.address index) ↔
      c.CanAsk ∧ (indexPath index).length ≤ maxLength ∧ c.base.HasRoom (indexTail index) := by
  have there := isBase.reads_below_iff index
  cases found : c.base.below index with
  | error fault =>
      rw [found] at there
      have nowhere := there.not.mp (not_reads_error fault)
      refine iff_of_false ?_ ?_
      · rintro ⟨a, made⟩
        rw [below_of_address made] at found
        cases found
      · rintro ⟨⟨root, goesOn, -⟩, fits⟩
        exact nowhere ⟨⟨root, goesOn⟩, fits⟩
  | ok b =>
      rw [found] at there
      obtain ⟨⟨root, goesOn⟩, fits⟩ := there.mp (reads_ok b)
      obtain ⟨_, -, made⟩ := exists_of_bind_eq_ok found
      have sameHost : b.hostChars = root.hostChars := Address.hostChars_eq made goesOn
      have headers : Reads (c.address index) ↔ b.hostChars.all Text.isAscii = true := by
        rw [address, found, Except.mapError, reads_ok_bind_iff,
          reads_bind_of_reads fun _ => reads_pure b, reads_checkHeader_iff, String.toList_ofList]
      rw [headers, sameHost]
      refine ⟨fun ascii => ⟨⟨root, goesOn, ascii⟩, fits⟩, ?_⟩
      rintro ⟨⟨root', goesOn', ascii⟩, -⟩
      obtain rfl := Except.ok.inj (goesOn.symm.trans goesOn')
      exact ascii

theorem leadsTo_iff (isBase : c.base.IsBase) (made : c.address index = .ok a) :
    a.LeadsTo index ↔ (c.base.query = none → index ≠ "." ∧ index ≠ "..") :=
  isBase.leadsTo_iff (below_of_address made)

/-- The text of the base of a client: its host, or else the usual one of its application. -/
def baseText (appId : String) (host : Option String) : String :=
  (host.filter (!·.isEmpty)).getD (usualHost appId)

/-- A client can be made of an address and of headers that are ASCII. -/
theorem reads_create_iff (appId key : String) (host : Option String) :
    Reads (create appId key host) ↔
      Reads ((Address.read (baseText appId host).toList).bind Address.asBase) ∧
        appId.toList.all Text.isAscii = true ∧ key.toList.all Text.isAscii = true := by
  rw [← reads_checkHeader_iff appId, ← reads_checkHeader_iff key,
    ← @reads_mapError_iff _ _ _ _ AddressFault.toFault]
  exact reads_bind_iff fun base => reads_bind_iff fun _ => reads_bind_of_reads fun _ => reads_pure _

theorem base_of_create {appId key : String} {host : Option String}
    (made : create appId key host = .ok c) :
    (Address.read (baseText appId host).toList).bind Address.asBase = .ok c.base := by
  obtain ⟨base, reads, made⟩ := exists_of_bind_eq_ok made
  obtain ⟨_, -, made⟩ := exists_of_bind_eq_ok made
  obtain ⟨_, -, made⟩ := exists_of_bind_eq_ok made
  cases made
  exact eq_ok_of_mapError_eq_ok reads

/-- A client goes on below a base if its host, unless it is empty, starts with a protocol of the
web. -/
theorem isBase_of_create {appId key host : String}
    (web : host.isEmpty = true ∨ Address.IsWeb host.toList)
    (made : create appId key (some host) = .ok c) : c.base.IsBase := by
  refine Address.isBase_of_isWeb ?_ (base_of_create made)
  cases empty : host.isEmpty with
  | true =>
      have usual : baseText appId (some host) = usualHost appId := by
        rw [baseText, Option.filter_some, empty]
        rfl
      rw [usual, usualHost, String.append_assoc, String.toList_append]
      exact .inr (List.prefix_append ..)
  | false =>
      have own : baseText appId (some host) = host := by
        rw [baseText, Option.filter_some, empty]
        rfl
      rw [own]
      exact web.resolve_left (Bool.not_eq_true _ ▸ empty)

end Address

/-! ## What is received -/

/-- An answer to a query that a client sends to an index. -/
structure Receives (c : Client) (index : String) (d : Delivery) (a : Answer) : Prop where
  sent : ∃ address, c.address index = .ok address ∧ Delivery.saysHow address = true
  delivered : d = .answered a

variable [Platform] {c : Client} {index : String}

theorem Receives.exists_payload {d : Delivery} {a : Answer} (receives : c.Receives index d a)
    (params : String) (timeout : Option Number) :
    ∃ address, Delivery.saysHow address = true ∧
      d.payload (c.request index params timeout) = Delivery.payloadOf address a := by
  obtain ⟨⟨address, sendable, known⟩, rfl⟩ := receives
  refine ⟨address, known, ?_⟩
  rw [Delivery.payload, request, sendable]
  rfl

theorem Receives.counts {d : Delivery} {a : Answer} (receives : c.Receives index d a)
    (params : String) (timeout : Option Number) :
    Delivery.Counts a (d.payload (c.request index params timeout)) := by
  obtain ⟨address, known, payload⟩ := receives.exists_payload params timeout
  rw [payload]
  exact Delivery.counts known

/-- An answer of status 200 comes to what its body holds. -/
theorem Receives.payload_of_ok {d : Delivery} {a : Answer} {content : List UInt8}
    (receives : c.Receives index d a) (status : a.status = 200) (plain : a.badHeader? = none)
    (decoded : a.content = .ok content) (params : String) (timeout : Option Number) :
    d.payload (c.request index params timeout) = Delivery.membersOf content := by
  obtain ⟨address, known, payload⟩ := receives.exists_payload params timeout
  have noLocation : Redirection.location? a = none := by
    rw [Redirection.location?, status]
    rfl
  have taken := Delivery.contentOf_of_location?_eq_none plain known noLocation
  rw [decoded] at taken
  rw [payload, Delivery.payloadOf_of_status_lt taken (by rw [status]; decide)]

theorem result_postQuery {timeout : Number} {x : Float} (double : timeout.toFloat = .ok x)
    (params : String) (supply : Supply) (used : Usage) :
    ((c.postQuery index params (some timeout)).run supply used).result =
      (supply.deliveries used.deliveries).payload (c.request index params (some timeout)) := by
  have checked : (some timeout).mapM Number.toFloat = .ok (some x) := by
    rw [Option.mapM_some, double]
    rfl
  simp only [postQuery, checked, Task.run]
  rfl

/-- What a check of an index says about what was delivered. -/
def answers (payload : Except Raised Members) : Except Raised Bool :=
  match payload with
  | .ok _ => .ok true
  | .error (.failure f) => .ok !f.kind.isTransient
  | .error raised => .error raised

omit [Platform] in
theorem answers_eq_false_iff (payload : Except Raised Members) :
    answers payload = .ok false ↔
      ∃ f, payload = .error (.failure f) ∧ f.kind.isTransient = true := by
  rcases payload with (f | fault | o) | members <;> simp [answers]

theorem result_isReachable (supply : Supply) :
    ((c.isReachable index (some checkTimeout)).run supply {}).result =
      answers ((supply.deliveries 0).payload
        (c.request index checkParams (some checkTimeout))) := by
  have double : checkTimeout.toFloat = .ok 5.0 := rfl
  rw [← result_postQuery double checkParams supply {}]
  refine Task.result_bind (fun payload used => ?_) _ _
  rcases payload with (f | fault | o) | members
  · cases transient : f.kind.isTransient <;> simp [transient, answers] <;> rfl
  · rfl
  · rfl
  · rfl

omit [Platform] in
/-- The address below a plain base to which the queries of an index go. -/
theorem address_shops :
    address ⟨{ scheme := "https".toList, host := "a.b".toList }, "A", "K"⟩ "shops" =
      .ok {
        scheme := "https".toList
        host := "a.b".toList
        path := "/1/indexes/shops/query".toList } := by
  rfl

end Client

end Bazaar
