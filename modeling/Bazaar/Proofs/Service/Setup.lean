import Bazaar.Platform.Usual
import Bazaar.Proofs.Client
import Bazaar.Proofs.Config.Accepted
import Bazaar.Proofs.Decimal.Range
import Bazaar.Proofs.Engine.Requests
import Bazaar.Proofs.Hit.Kind
import Bazaar.Proofs.Service.FanOut
import Bazaar.Proofs.Service.Lookup
import Bazaar.Service.Setup

/-!
# The service of an accepted configuration

A configuration that is accepted describes a service that can work, but not every one can be set up:
its credentials have to fit into headers, its host has to be an address, and its quiet period in
seconds has to be a double.  A search over all configured indices asks each of them below its own
name and reads its records as what they are, unless the name is lost on the way; and records can be
looked up by identifier.
-/

namespace Bazaar

/-! ## Searches of a known index -/

namespace Engine

variable {e : Engine} {r : Request} {spec : IndexSpec}

theorem spec_of_known (known : e.catalog.spec? r.index = some spec) : e.spec r.index = spec := by
  rw [Engine.spec, known]

/-- Without an order, a request goes to the index itself. -/
theorem physicalIndex_of_unspecified (known : e.catalog.spec? r.index = some spec)
    (unordered : r.sortBy = .unspecified) : e.physicalIndex r = spec.name := by
  rw [physicalIndex, spec_of_known known, unordered]
  unfold Replica.select
  split_ifs <;> rfl

variable [Platform]

theorem kind_of_readPayload {kind : HitKind} {hitsPerPage : Int}
    {payload : Except Raised Members} {answer : Response}
    (read : (readPayload kind hitsPerPage payload).2 = .ok answer) :
    ∀ hit ∈ answer.hits, hit.record.kind = kind := by
  cases payload with
  | error raised => cases read
  | ok members => exact Response.kind_of_ofMembers read

/-- The hits of a search are records of the kind of its index. -/
theorem kind_of_execute {supply : Supply} {result : SearchResult}
    (accepted : e.policy.fault? = none)
    (ended : ((e.execute r).run supply {}).result = .ok result) :
    ∀ hit ∈ result.hits, hit.record.kind = HitKind.ofName (e.spec r.index).kind := by
  have written : Reads r.params := by
    by_contra unwritten
    obtain ⟨fault, fails⟩ := exists_error_of_not_reads unwritten
    rw [execute_of_unwritten e fails] at ended
    cases ended
  have follows := execute_follows supply accepted written
  by_cases inRange : e.InRange supply 0 (e.lastAttempt r supply)
  · rw [follows.result inRange, verdict] at ended
    split at ended
    · rename_i answer found
      cases ended
      exact kind_of_readPayload found
    · cases ended
      exact List.forall_mem_nil _
    · cases ended
  · obtain ⟨o, overflow⟩ := follows.overflow inRange
    rw [overflow] at ended
    cases ended

/-- What becomes of a request to an index of the catalog.  All that leaves for it goes to the
address of its physical index, attempt after attempt, if there is one and the page size is written.
The address leads to the index unless its name is taken for a step within the path.  Its records are
read as what they are. -/
structure Serves (e : Engine) (supply : Supply) (r : Request) (spec : IndexSpec)
    (result : SearchResult) : Prop where
  hasAddress : Reads (e.client.address spec.name) ↔
    e.client.CanAsk ∧ (Address.indexPath spec.name).length ≤ WrittenAddress.maxLength ∧
      e.client.base.HasRoom (Address.indexTail spec.name)
  leadsThere : ∀ address, e.client.address spec.name = .ok address →
    (address.LeadsTo spec.name ↔ (e.client.base.query = none → spec.name ≠ "." ∧ spec.name ≠ ".."))
  asked : ∀ address, e.client.address spec.name = .ok address → r.Writable →
    ∃ n, ((e.execute r).run supply {}).requests = (List.range' 1 (n + 1)).map fun k : Nat =>
      ⟨.ok address, Request.encodeParameters r.saying, some (e.policy.timeoutFor k)⟩
  unasked : ¬(Reads (e.client.address spec.name) ∧ r.Writable) →
    ∀ wire ∈ ((e.execute r).run supply {}).requests, ¬Reads wire.address
  settled : result = r.settled (e.backend.outcome supply r)
  kind : ∃ kind : HitKind, spec.kind = kind.name ∧ HitKind.ofName (e.spec r.index).kind = kind ∧
    ∀ hit ∈ result.hits, hit.record.kind = kind

section Serves

variable (sound : e.policy.Sound) (known : e.catalog.spec? r.index = some spec)
  (unordered : r.sortBy = .unspecified) (supply : Supply)

include known unordered

theorem requestOf_of_known (attempt : Nat) :
    e.requestOf r attempt =
      ⟨e.client.address spec.name, r.written, some (e.policy.timeoutFor attempt)⟩ := by
  rw [requestOf, physicalIndex_of_unspecified known unordered, Client.request]

include sound

theorem exists_requests_of_address {address : Address}
    (made : e.client.address spec.name = .ok address) (writable : r.Writable) :
    ∃ n, ((e.execute r).run supply {}).requests = (List.range' 1 (n + 1)).map fun k : Nat =>
      ⟨.ok address, Request.encodeParameters r.saying, some (e.policy.timeoutFor k)⟩ := by
  have first := RetryPolicy.getElem?_timeouts sound.accepted 1
  obtain ⟨x, timeout⟩ := sound.doubles _ (List.mem_of_getElem? first)
  have params : r.params = .ok (Request.encodeParameters r.saying) :=
    Request.params_eq_ok_iff.mpr ⟨writable, rfl⟩
  have sent : 0 < ((e.execute r).run supply {}).requests.length :=
    length_requests_pos sound.accepted ⟨_, params⟩ timeout
  obtain ⟨n, count⟩ := Nat.exists_eq_succ_of_ne_zero (Nat.ne_of_gt sent)
  have requests := requests_execute r supply sound.accepted
  rw [count] at requests
  refine ⟨n, requests.trans (List.map_congr_left fun k _ => ?_)⟩
  rw [requestOf_of_known known unordered, made, Request.written, params]
  rfl

theorem address_of_unasked
    (unasked : ¬(Reads (e.client.address spec.name) ∧ r.Writable)) :
    ∀ wire ∈ ((e.execute r).run supply {}).requests, ¬Reads wire.address := by
  intro wire sent
  by_cases writable : r.Writable
  · rw [requests_execute r supply sound.accepted] at sent
    obtain ⟨k, -, rfl⟩ := List.mem_map.mp sent
    rw [requestOf_of_known known unordered]
    exact fun reads => unasked ⟨reads, writable⟩
  · obtain ⟨fault, fails⟩ := exists_error_of_not_reads (Request.reads_params_iff.not.mpr writable)
    rw [execute_of_unwritten e fails] at sent
    cases sent

theorem serves (isBase : e.client.base.IsBase) (usable : spec.Usable) :
    e.Serves supply r spec (r.settled (e.backend.outcome supply r)) := by
  obtain ⟨kind, named, found⟩ := usable.kind
  have isKind : HitKind.ofName (e.spec r.index).kind = kind := by
    rw [spec_of_known known, HitKind.ofName, found]
    rfl
  exact {
    hasAddress := Client.reads_address_iff isBase spec.name
    leadsThere := fun address made => Client.leadsTo_iff isBase made
    asked := fun address => exists_requests_of_address sound known unordered supply
    unasked := address_of_unasked sound known unordered supply
    settled := rfl
    kind := by
      refine ⟨kind, named, isKind, ?_⟩
      cases ended : e.backend.outcome supply r with
      | ok result =>
          rw [← isKind]
          exact kind_of_execute sound.accepted ended
      | error raised =>
          rcases raised with f | fault | o <;> exact List.forall_mem_nil _ }

end Serves

end Engine

/-- The entry of a search over several indices for which a request is sent. -/
theorem Service.exists_entry_of_asks [Platform] {service : Service} {term : String}
    {options : IndexOptions} {requests : List Request} (asks : List.Forall₂ (service.Asks term) options requests) {i : Nat}
    {r : Request} (asked : requests[i]? = some r) :
    ∃ entry, options[i]? = some entry ∧ service.Asks term entry r := by
  obtain ⟨within, rfl⟩ := List.getElem?_eq_some_iff.mp asked
  have listed : i < options.length := asks.length_eq ▸ within
  exact ⟨_, List.getElem?_eq_getElem listed, asks.get listed within⟩

/-! ## Setting up -/

namespace Config

variable {env : Environment} {root : Mapping} {s : Settings} {engine : Engine} {service : Service}

/-- Whether there is a client for some settings: they have credentials, the headers can carry these,
and their host, or else the usual one, can be read as a base address. -/
structure Settings.HasClient (s : Settings) : Prop where
  appId : s.connection.appId ≠ ""
  key : s.connection.key ≠ ""
  base : Reads ((Address.read
    (Client.baseText s.connection.appId (some s.connection.host)).toList).bind Address.asBase)
  appIdAscii : s.connection.appId.toList.all Text.isAscii = true
  keyAscii : s.connection.key.toList.all Text.isAscii = true

/-- Whether the quiet period of some settings is a double. -/
def Settings.QuietFits (s : Settings) : Prop :=
  s.search.quietMillis.natAbs < Decimal.limit * 1000

theorem credentials_eq_ok_iff {c : Connection} {pair : String × String} :
    c.credentials = .ok pair ↔ (c.appId ≠ "" ∧ c.key ≠ "") ∧ (c.appId, c.key) = pair := by
  unfold Connection.credentials
  by_cases appId : c.appId = "" <;> by_cases key : c.key = "" <;> simp [appId, key]

theorem quietPeriod_eq_error {s : SearchSettings} (wide : ¬Reads s.quietPeriod) :
    s.quietPeriod = .error .quotient := by
  rw [SearchSettings.quietPeriod, Number.divideInt] at wide ⊢
  split at wide
  · exact absurd (reads_ok _) wide
  · rename_i infinite
    exact if_neg infinite

/-- Where there is a client, only the quiet period decides whether a service can be set up. -/
theorem setUp_of_hasClient (hasClient : s.HasClient) :
    (∃ x engine service, s.search.quietPeriod = .ok x ∧ s.setUp = .ok (engine, service)) ∨
      ∃ o, s.search.quietPeriod = .error o ∧
        s.setUp = .error (Fault.number (.overflow o)).refusal := by
  have credentials := credentials_eq_ok_iff.mpr ⟨⟨hasClient.appId, hasClient.key⟩, rfl⟩
  obtain ⟨client, made⟩ := (Client.reads_create_iff _ _ _).mpr
    ⟨hasClient.base, hasClient.appIdAscii, hasClient.keyAscii⟩
  unfold Settings.setUp
  rw [credentials]
  simp only [Except.mapError, bind, Except.bind, made]
  cases s.search.quietPeriod with
  | ok x => exact .inl ⟨x, _, _, rfl, rfl⟩
  | error o => exact .inr ⟨o, rfl, rfl⟩

theorem hasClient_of_reads_setUp (reads : Reads s.setUp) : s.HasClient := by
  obtain ⟨pair, made⟩ := reads
  obtain ⟨credentials, given, made⟩ := exists_of_bind_eq_ok made
  obtain ⟨client, created, -⟩ := exists_of_bind_eq_ok made
  obtain ⟨⟨appId, key⟩, rfl⟩ := credentials_eq_ok_iff.mp (eq_ok_of_mapError_eq_ok given)
  obtain ⟨base, appIdAscii, keyAscii⟩ :=
    (Client.reads_create_iff _ _ _).mp ⟨client, eq_ok_of_mapError_eq_ok created⟩
  exact ⟨appId, key, base, appIdAscii, keyAscii⟩

/-- A service can be set up exactly if there is a client and the quiet period is a double. -/
theorem reads_setUp_iff : Reads s.setUp ↔ s.HasClient ∧ s.QuietFits := by
  have fits : s.QuietFits ↔ Reads s.search.quietPeriod :=
    (Number.divideInt_eq_ok_iff s.search.quietMillis (by decide)).symm
  rw [fits]
  constructor
  · intro reads
    have hasClient := hasClient_of_reads_setUp reads
    refine ⟨hasClient, ?_⟩
    obtain ⟨x, -, -, quiet, -⟩ | ⟨o, -, failed⟩ := setUp_of_hasClient hasClient
    · exact ⟨x, quiet⟩
    · rw [failed] at reads
      exact absurd reads (not_reads_error _)
  · rintro ⟨hasClient, x, quiet⟩
    obtain ⟨-, engine, service, -, made⟩ | ⟨o, wide, -⟩ := setUp_of_hasClient hasClient
    · exact ⟨_, made⟩
    · rw [quiet] at wide
      cases wide

/-- A quiet period that is no double is an overflow once there is a client. -/
theorem setUp_of_not_quietFits (hasClient : s.HasClient) (wide : ¬s.QuietFits) :
    s.setUp = .error (Fault.number (.overflow .quotient)).refusal := by
  have noPeriod : ¬Reads s.search.quietPeriod :=
    (Number.divideInt_eq_ok_iff s.search.quietMillis (by decide)).not.mpr wide
  have overflow := quietPeriod_eq_error noPeriod
  obtain ⟨x, -, -, quiet, -⟩ | ⟨o, same, failed⟩ := setUp_of_hasClient hasClient
  · exact absurd ⟨x, quiet⟩ noPeriod
  · rw [overflow] at same
    cases same
    exact failed

/-- What is set up is what the settings say. -/
structure SetsUp (s : Settings) (engine : Engine) (service : Service) : Prop where
  client : Client.create s.connection.appId s.connection.key (some s.connection.host) =
    .ok engine.client
  policy : engine.policy = s.retry
  engineCatalog : engine.catalog = s.catalog
  catalog : service.catalog = s.catalog
  fanOutIndices : service.fanOutIndices = s.search.fanOutIndices.map Word.value
  fanOutHitsPerPage : service.fanOutHitsPerPage = s.search.fanOutHitsPerPage
  idChunkSize : service.idChunkSize = s.search.idChunkSize

theorem setsUp_of_setUp (made : s.setUp = .ok (engine, service)) : SetsUp s engine service := by
  obtain ⟨⟨appId, key⟩, credentials, made⟩ := exists_of_bind_eq_ok made
  obtain ⟨client, created, made⟩ := exists_of_bind_eq_ok made
  obtain ⟨quietPeriod, -, made⟩ := exists_of_bind_eq_ok made
  cases made
  obtain ⟨-, same⟩ := credentials_eq_ok_iff.mp (eq_ok_of_mapError_eq_ok credentials)
  cases same
  exact ⟨eq_ok_of_mapError_eq_ok created, rfl, rfl, rfl, rfl, rfl, rfl⟩

/-! ## Accepted configurations -/

/-- The default search asks every configured index once, with the configured page size. -/
theorem fanOut_of_setsUp (usable : s.Usable) (setsUp : SetsUp s engine service) :
    service.fanOut none = (s.search.fanOutIndices.map Word.value).map fun index =>
      (index, some { hitsPerPage := some s.search.fanOutHitsPerPage }) := by
  rw [Service.fanOut, setsUp.fanOutIndices, setsUp.fanOutHitsPerPage,
    eraseDups_of_nodup usable.fanOut_nodup]

/-- A lookup is never refused for the size of its parts. -/
theorem exists_plan_of_setsUp (usable : s.Usable) (setsUp : SetsUp s engine service)
    (index : String) (ids : List String) :
    ∃ plan, service.getByIds index ids none = .ok plan := by
  have positive : 0 < Option.getD none service.idChunkSize := by
    rw [Option.getD_none, setsUp.idChunkSize]
    exact usable.idChunkSize
  obtain ⟨plan, -, planned, -⟩ := service.exists_plan_of_getByIds index ids positive
  exact ⟨plan, planned⟩

variable [Platform]

/-- A request for as many hits as the configured page size.  It has parameters if that is
written. -/
structure AsksForSize (s : Settings) (r : Request) : Prop where
  parameter : ("hitsPerPage", toString s.search.fanOutHitsPerPage) ∈ r.saying
  writable : r.Writable ↔ Platform.Allows (Platform.digitCount s.search.fanOutHitsPerPage)

theorem asksForSize_of_asks {term index : String} {r : Request}
    (asks : service.Asks term (index, some { hitsPerPage := some s.search.fanOutHitsPerPage }) r) :
    AsksForSize s r := by
  have size : r.hitsPerPage = s.search.fanOutHitsPerPage := asks.hitsPerPage
  have first : r.page = 0 := asks.page
  refine ⟨by simp [Request.saying, size], ?_⟩
  rw [Request.Writable, size, first]
  exact and_iff_right (Platform.allows_of_le (by decide))

/-- A request of the default search as it is asked. -/
theorem serves_of_asks (usable : s.Usable) (setsUp : SetsUp s engine service)
    (sound : s.retry.Sound) (isBase : engine.client.base.IsBase)
    {term : String} {entry : String × Option SearchOptions} {r : Request}
    (listed : entry ∈ service.fanOut none) (asks : service.Asks term entry r) (supply : Supply) :
    ∃ spec, s.catalog.spec? entry.1 = some spec ∧ AsksForSize s r ∧
      engine.Serves supply r spec (r.settled (engine.backend.outcome supply r)) := by
  rw [fanOut_of_setsUp usable setsUp] at listed
  obtain ⟨name, member, rfl⟩ := List.mem_map.mp listed
  obtain ⟨word, isFanOut, rfl⟩ := List.mem_map.mp member
  obtain ⟨spec, known⟩ := usable.fanOut_known word isFanOut
  refine ⟨spec, known, ?_, ?_⟩
  · exact asksForSize_of_asks asks
  · refine Engine.serves ?_ ?_ asks.sortBy supply isBase
      (usable.catalog _ (Entries.mem_of_get? known))
    · rw [setsUp.policy]
      exact sound
    · rw [setsUp.engineCatalog, asks.index]
      exact known

/-- What a search for a term over all configured indices comes to: every index has one entry, which
stems from its own request and shows what became of it. -/
structure SearchesAll (s : Settings) (engine : Engine) (service : Service) (term : String)
    (supplies : Nat → Supply) (requests : List Request) (a : Aggregate) : Prop where
  sent : (service.searchAll term none).requests = requests.map .ok
  yields : (service.searchAll term none).Yields engine.backend supplies a
  names : a.names = s.search.fanOutIndices.map Word.value
  paired : requests.length = a.length
  served : ∀ (i : Nat) (name : String) (result : SearchResult), a[i]? = some (name, result) →
    ∃ r spec, requests[i]? = some r ∧ s.catalog.spec? name = some spec ∧ r.index = name ∧
      AsksForSize s r ∧ engine.Serves (supplies i) r spec result

theorem exists_searchesAll (usable : s.Usable) (setsUp : SetsUp s engine service)
    (sound : s.retry.Sound) (isBase : engine.client.base.IsBase)
    (term : String) (supplies : Nat → Supply) :
    ∃ requests a, SearchesAll s engine service term supplies requests a := by
  have noOptions : Service.Compiles none := nofun
  obtain ⟨requests, built, asks⟩ :=
    service.exists_requests term (Service.compile_fanOut noOptions)
  have paired : (service.fanOut none).names.length = requests.length := by
    rw [Entries.names, List.length_map]
    exact asks.length_eq
  obtain ⟨a, yields, isolates⟩ : ∃ a : Aggregate,
      (service.searchAll term none).Yields engine.backend supplies a ∧
      Service.Isolates engine.backend supplies (service.fanOut none).names requests a :=
    ⟨_, service.yields_searchAll term built engine.backend supplies,
      Service.isolates_zip engine.backend supplies paired⟩
  refine ⟨requests, a, ?sent, yields, ?names, ?paired, ?served⟩
  case sent =>
    simp only [Service.searchAll, Service.fanOut_eq, built]
    rfl
  case names =>
    rw [isolates.names, fanOut_of_setsUp usable setsUp, Entries.names, List.map_map]
    exact List.map_id _
  case paired => rw [← paired, ← isolates.names, Entries.names, List.length_map]
  case served =>
    intro i name result found
    have entries := isolates.entries i
    rw [found] at entries
    obtain ⟨r, asked, settled⟩ := Option.map_eq_some_iff.mp entries.symm
    obtain ⟨entry, listed, entryAsks⟩ := Service.exists_entry_of_asks asks asked
    have named : entry.1 = name := by
      have same := congrArg (·[i]?) isolates.names
      simp only [Entries.names, List.getElem?_map, found, listed, Option.map_some] at same
      exact (Option.some.inj same).symm
    obtain ⟨spec, known, size, serves⟩ :=
      serves_of_asks usable setsUp sound isBase (List.mem_of_getElem? listed) entryAsks (supplies i)
    rw [settled] at serves
    exact ⟨r, spec, asked, named ▸ known, entryAsks.index.trans named, size, serves⟩

/-- The client of accepted settings goes on below a base. -/
theorem isBase_of_accepted (accepted : read env root = .ok s) (setsUp : SetsUp s engine service) :
    engine.client.base.IsBase := by
  refine Client.isBase_of_create ((host_of_read accepted).imp_right fun web => ?_) setsUp.client
  exact (Bool.or_eq_true_iff.mp web).imp Text.startsWith_iff.mp Text.startsWith_iff.mp

end Config

end Bazaar
