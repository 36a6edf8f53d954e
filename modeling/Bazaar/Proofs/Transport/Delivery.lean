import Bazaar.Proofs.Outcome
import Bazaar.Transport.Delivery
import Mathlib.Tactic.SplitIfs

/-!
# What an answer counts as

Which failure an answer to a request is, if it is one.  The status decides this only if the body can
be read as text: an answer whose content cannot be had is a failure of decoding whatever its status,
and one whose text cannot be had is a fault.  Below status 400, an answer that names another address
which is none counts as a failure of the transport.  That address is looked at before a body that
follows behind the headers.
-/

namespace Bazaar

/-- An answer whose body can be read as text on the platform. -/
structure Answer.Legible [Platform] (a : Answer) : Prop where
  plain : a.badHeader? = none
  text : ∃ content text, a.content = .ok content ∧ a.text content = .ok text

/-- An answer that names another address which is none.  Nothing is wrong with it before that is
noticed: the content of a body that is at hand can be had. -/
structure Answer.Misdirects (a : Answer) : Prop where
  plain : a.badHeader? = none
  content : a.atHand = true → ∃ content, a.content = .ok content
  location : ∃ location fault,
    Redirection.location? a = some location ∧ Address.read location.toList = .error fault

/-! ## Faults outside the exchange -/

/-- Whether whatever goes wrong is no fault of the exchange of requests and answers. -/
def Outside (x : Except Fault α) : Prop :=
  ∀ fault, x = .error fault → fault.kind.isExchange = false

section Outside

theorem outside_ok (a : α) : Outside (.ok a) :=
  fun _ absurd => nomatch absurd

theorem Outside.bind {x : Except Fault α} {f : α → Except Fault β} (first : Outside x)
    (rest : ∀ a, Outside (f a)) : Outside (x >>= f) := by
  cases x with
  | error fault => exact fun _ met => first _ (by cases met; rfl)
  | ok a => exact rest a

theorem outside_address (x : Except AddressFault α) :
    Outside (x.mapError AddressFault.toFault) := by
  rintro fault met
  cases x with
  | error found => cases met; rfl
  | ok a => cases met

theorem outside_name (x : Except Host.NameFault α) :
    Outside (x.mapError Host.NameFault.toFault) := by
  rintro fault met
  cases x with
  | ok a => cases met
  | error found =>
      cases met
      cases found with
      | label fault => cases fault <;> rfl
      | _ => rfl

end Outside

namespace Address

variable (a sender : Address)

theorem outside_hostName : Outside a.hostName := by
  unfold hostName
  split_ifs
  · exact outside_name _
  · exact outside_ok _

theorem outside_withHostOf : Outside (a.withHostOf sender) := by
  refine (outside_hostName a).bind fun host => ?_
  split_ifs
  · exact outside_ok _
  refine (outside_hostName sender).bind fun host => ?_
  split_ifs
  · exact outside_ok _
  · exact outside_address _

theorem outside_readAgain : Outside a.readAgain := by
  unfold readAgain
  split_ifs
  · exact outside_ok _
  · exact outside_address _

theorem outside_withFragmentOf : Outside (a.withFragmentOf sender) := by
  unfold withFragmentOf
  dsimp only
  split_ifs
  · exact outside_ok _
  · exact outside_address _

end Address

namespace Redirection

variable {sender : Address} {a : Answer}

theorem check_of_location?_eq_none (noLocation : location? a = none) : check sender a = .ok () := by
  rw [check, noLocation]

theorem check_of_bad_location {location : String} {fault : AddressFault}
    (named : location? a = some location) (bad : Address.read location.toList = .error fault) :
    check sender a = .error (Fault.simple .remoteProtocol (badLocation fault)) := by
  rw [check, named]
  simp only [bad]

/-- An address to turn to that is one may still not be taken in, but this is no matter of the
exchange. -/
theorem outside_check (good : ∀ location fault, location? a = some location →
    Address.read location.toList ≠ .error fault) : Outside (check sender a) := by
  unfold check
  cases named : location? a with
  | none => exact outside_ok ()
  | some location =>
      dsimp only
      cases read : Address.read location.toList with
      | error fault => exact absurd read (good location fault named)
      | ok target =>
          refine (Address.outside_withHostOf target sender).bind fun target => ?_
          refine (Address.outside_readAgain target).bind fun target => ?_
          refine (Address.outside_withFragmentOf target sender).bind fun target => ?_
          refine (Address.outside_hostName target).bind fun _ => ?_
          exact (Address.outside_hostName sender).bind fun _ => outside_ok ()

theorem location?_of_status (status : 400 ≤ a.status) : location? a = none := by
  have other : statuses.contains a.status = false := by
    simp only [statuses, List.contains_eq_mem, decide_eq_false_iff_not, List.mem_cons,
      List.not_mem_nil, or_false]
    omega
  rw [location?, other]
  rfl

end Redirection

theorem Answer.Misdirects.status_lt {a : Answer} (misdirects : a.Misdirects) : a.status < 400 := by
  obtain ⟨-, -, location, -, named, -⟩ := misdirects
  refine Int.not_le.mp fun large => ?_
  rw [Redirection.location?_of_status large] at named
  contradiction

/-! ## Answers -/

namespace Delivery

theorem ofRaised_of_outside {fault : Fault} (outside : fault.kind.isExchange = false) :
    ofRaised (.fault fault) = .fault fault := by
  simp [ofRaised, Fault.toFailure?, outside]

variable {address : Address} {a : Answer}

section Content

variable (plain : a.badHeader? = none) (known : saysHow address = true)

include plain known

/-- The content of an answer, and the check of the address that it names, in the order in which the
body comes. -/
theorem contentOf_eq : contentOf address a =
    if a.atHand then a.content.bind fun content => (Redirection.check address a).map fun _ => content
    else (Redirection.check address a).bind fun _ => a.content := by
  simp only [contentOf, plain, checkAddresses, known]
  cases a.atHand <;> cases a.content <;> cases Redirection.check address a <;> rfl

theorem contentOf_eq_ok_iff {content : List UInt8} : contentOf address a = .ok content ↔
    a.content = .ok content ∧ Redirection.check address a = .ok () := by
  rw [contentOf_eq plain known]
  cases a.atHand <;> cases a.content <;> cases Redirection.check address a <;>
    simp [Except.bind, Except.map]

/-- What keeps the content from being had lies in the content, or in the address that the answer
names; this one is looked at behind a body that is at hand. -/
theorem error_of_contentOf {fault : Fault} (failed : contentOf address a = .error fault) :
    a.content = .error fault ∨ Redirection.check address a = .error fault ∧
      (a.atHand = true → ∃ content, a.content = .ok content) := by
  rw [contentOf_eq plain known] at failed
  cases hand : a.atHand <;> cases decoded : a.content <;>
    cases checked : Redirection.check address a <;>
      simp_all [Except.bind, Except.map]

/-- The content of an answer that names no other address comes to what undoing its codings does. -/
theorem contentOf_of_location?_eq_none (noLocation : Redirection.location? a = none) :
    contentOf address a = a.content := by
  rw [contentOf_eq plain known, Redirection.check_of_location?_eq_none noLocation]
  cases a.atHand <;> cases a.content <;> rfl

end Content

theorem kind_of_undecodable {fault : Fault} (undecodable : a.content = .error fault) :
    fault.kind = .decoding := by
  obtain ⟨found, -, rfl⟩ := exists_of_mapError_eq_error undecodable
  rfl

variable [Platform]

/-- What keeps a body from being an object is a failure of decoding, if it is a failure. -/
theorem kind_of_membersOf {bytes : List UInt8} {f : Failure}
    (failed : membersOf bytes = .error (.failure f)) : f.kind = .decode := by
  unfold membersOf at failed
  split at failed
  · split at failed
    · cases failed
    · cases failed
      rfl
  · cases failed
  · cases failed
    rfl

theorem payloadOf_of_refused {fault : Fault} (refused : contentOf address a = .error fault) :
    payloadOf address a = .error (ofRaised (.fault fault)) := by
  rw [payloadOf, refused]
  rfl

theorem payloadOf_of_status_lt {content : List UInt8} (taken : contentOf address a = .ok content)
    (small : a.status < 400) : payloadOf address a = membersOf content := by
  rw [payloadOf, taken]
  simp [Except.mapError, Int.not_le.mpr small, bind, Except.bind]

theorem payloadOf_of_le_status {content : List UInt8} (taken : contentOf address a = .ok content)
    (large : 400 ≤ a.status) :
    payloadOf address a =
      match a.text content with
      | .error fault => .error (.fault fault)
      | .ok text => .error (.failure (Failure.ofStatus a.status text)) := by
  rw [payloadOf, taken]
  cases found : a.text content <;>
    simp [Except.mapError, large, found, bind, Except.bind, throw, throwThe, MonadExceptOf.throw]

/-- Whatever its status, an answer whose content cannot be had is a failure of decoding, unless the
address that it names comes before. -/
theorem payloadOf_of_undecodable {fault : Fault} (undecodable : a.content = .error fault)
    (refused : contentOf address a = .error fault) :
    ∃ f, payloadOf address a = .error (.failure f) ∧ f.kind = .decode := by
  rw [payloadOf_of_refused refused, ofRaised, Fault.toFailure?, kind_of_undecodable undecodable]
  exact ⟨_, rfl, rfl⟩

theorem payloadOf_of_misdirects (known : saysHow address = true) (misdirects : a.Misdirects) :
    ∃ f, payloadOf address a = .error (.failure f) ∧ f.kind = .transport := by
  obtain ⟨plain, decoded, location, fault, named, bad⟩ := misdirects
  have refused : contentOf address a =
      .error (Fault.simple .remoteProtocol (Redirection.badLocation fault)) := by
    rw [contentOf_eq plain known, Redirection.check_of_bad_location named bad]
    split_ifs with hand
    · obtain ⟨content, found⟩ := decoded hand
      rw [found]
      rfl
    · rfl
  exact ⟨_, payloadOf_of_refused refused, rfl⟩

/-- What an answer to a request counts as. -/
inductive Counts (a : Answer) (payload : Except Raised Members) : Prop where
  /-- It is the failure that its status says. -/
  | byStatus (legible : a.Legible) (large : 400 ≤ a.status) (text : String)
      (failed : payload = .error (.failure (Failure.ofStatus a.status text)))
  /-- It is a failure of the transport. -/
  | byLocation (misdirects : a.Misdirects) (f : Failure) (failed : payload = .error (.failure f))
      (isTransport : f.kind = .transport)
  /-- It gives members, or a fault, or is a failure of decoding. -/
  | byBody (notByStatus : 400 ≤ a.status → ¬a.Legible) (direct : ¬a.Misdirects)
      (decode : ∀ f, payload = .error (.failure f) → f.kind = .decode)

section Counts

variable (plain : a.badHeader? = none) (known : saysHow address = true) (direct : ¬a.Misdirects)

include plain direct

theorem counts_of_taken {content : List UInt8} (decoded : a.content = .ok content)
    (taken : contentOf address a = .ok content) : Counts a (payloadOf address a) := by
  by_cases large : 400 ≤ a.status
  · have payload := payloadOf_of_le_status taken large
    cases read : a.text content with
    | ok text =>
        rw [read] at payload
        exact .byStatus ⟨plain, content, text, decoded, read⟩ large text payload
    | error fault =>
        rw [read] at payload
        refine .byBody (fun _ legible => ?_) direct fun f failed => ?_
        · obtain ⟨content', text, decoded', read'⟩ := legible.text
          rw [decoded] at decoded'
          cases decoded'
          rw [read] at read'
          contradiction
        · rw [payload] at failed
          cases failed
  · rw [payloadOf_of_status_lt taken (Int.not_le.mp large)]
    exact .byBody (fun large' => absurd large' large) direct fun f failed =>
      kind_of_membersOf failed

include known

theorem counts_of_refused {fault : Fault} (refused : contentOf address a = .error fault) :
    Counts a (payloadOf address a) := by
  have notByStatus : 400 ≤ a.status → ¬a.Legible := by
    intro large legible
    obtain ⟨content, -, decoded, -⟩ := legible.text
    rw [contentOf_of_location?_eq_none plain known (Redirection.location?_of_status large),
      decoded] at refused
    cases refused
  rcases error_of_contentOf plain known refused with undecodable | ⟨checked, decoded⟩
  · obtain ⟨f, failed, isDecode⟩ := payloadOf_of_undecodable undecodable refused
    refine .byBody notByStatus direct fun f' failed' => ?_
    rw [failed] at failed'
    cases failed'
    exact isDecode
  · have outside := Redirection.outside_check (fun location fault named bad =>
      direct ⟨plain, decoded, location, fault, named, bad⟩) fault checked
    refine .byBody notByStatus direct fun f failed => ?_
    rw [payloadOf_of_refused refused, ofRaised_of_outside outside] at failed
    cases failed

end Counts

/-- Every answer to a request that can be sent counts as one of these. -/
theorem counts (known : saysHow address = true) : Counts a (payloadOf address a) := by
  -- The stages in their order: the headers first, then the address and the content.
  cases plain : a.badHeader? with
  | some text =>
      have refused : contentOf address a = .error (Fault.simple .encoding text) := by
        rw [contentOf, plain]
        rfl
      refine .byBody (fun _ legible => ?_) (fun misdirects => ?_) fun f failed => ?_
      · rw [legible.plain] at plain
        contradiction
      · rw [misdirects.plain] at plain
        contradiction
      · rw [payloadOf_of_refused refused] at failed
        cases failed
  | none =>
      by_cases misdirects : a.Misdirects
      · obtain ⟨f, failed, isTransport⟩ := payloadOf_of_misdirects known misdirects
        exact .byLocation misdirects f failed isTransport
      · cases taken : contentOf address a with
        | ok content =>
            have decoded := ((contentOf_eq_ok_iff plain known).mp taken).1
            exact counts_of_taken plain misdirects decoded taken
        | error fault => exact counts_of_refused plain known misdirects taken

namespace Counts

variable {payload : Except Raised Members}

/-- An answer is a failure with its status exactly if the status says so and the body is legible. -/
theorem byStatus_iff (counts : Counts a payload) {kind : FailureKind}
    (fromStatus : kind = .server ∨ kind = .client) :
    (∃ f, payload = .error (.failure f) ∧ f.kind = kind ∧ f.status = some a.status) ↔
      400 ≤ a.status ∧ Failure.kindOfStatus a.status = kind ∧ a.Legible := by
  constructor
  · rintro ⟨f, failed, rfl, -⟩
    cases counts with
    | byStatus legible large text failed' =>
        rw [failed] at failed'
        cases failed'
        exact ⟨large, rfl, legible⟩
    | byLocation _ f' failed' isTransport =>
        rw [failed] at failed'
        cases failed'
        rw [isTransport] at fromStatus
        simp at fromStatus
    | byBody _ _ decode =>
        rw [decode f failed] at fromStatus
        simp at fromStatus
  · rintro ⟨large, rfl, legible⟩
    cases counts with
    | byStatus _ _ text failed => exact ⟨_, failed, rfl, rfl⟩
    | byLocation misdirects _ _ _ => exact absurd misdirects.status_lt (Int.not_lt.mpr large)
    | byBody notByStatus _ _ => exact absurd legible (notByStatus large)

theorem server_iff (counts : Counts a payload) :
    (∃ f, payload = .error (.failure f) ∧ f.kind = .server ∧ f.status = some a.status) ↔
      500 ≤ a.status ∧ a.Legible := by
  rw [counts.byStatus_iff (.inl rfl), Failure.kindOfStatus]
  split_ifs <;> simp <;> omega

theorem client_iff (counts : Counts a payload) :
    (∃ f, payload = .error (.failure f) ∧ f.kind = .client ∧ f.status = some a.status) ↔
      400 ≤ a.status ∧ a.status < 500 ∧ a.Legible := by
  rw [counts.byStatus_iff (.inr rfl), Failure.kindOfStatus]
  split_ifs <;> simp <;> omega

theorem transient_iff (counts : Counts a payload) :
    (∃ f, payload = .error (.failure f) ∧ f.kind.isTransient = true) ↔
      500 ≤ a.status ∧ a.Legible ∨ a.Misdirects := by
  cases counts with
  | byStatus legible large text failed =>
      have direct : ¬a.Misdirects := fun misdirects =>
        absurd misdirects.status_lt (Int.not_lt.mpr large)
      have transient :
          (Failure.ofStatus a.status text).kind.isTransient = true ↔ 500 ≤ a.status := by
        simp only [Failure.ofStatus, Failure.kindOfStatus]
        split <;> simp_all [FailureKind.isTransient]
      simp [failed, transient, legible, direct]
  | byLocation misdirects f failed isTransport =>
      exact iff_of_true ⟨f, failed, by rw [isTransport]; rfl⟩ (.inr misdirects)
  | byBody notByStatus direct decode =>
      refine iff_of_false ?_ ?_
      · rintro ⟨f, failed, transient⟩
        rw [decode f failed] at transient
        contradiction
      · rintro (⟨large, legible⟩ | misdirects)
        · exact notByStatus (by omega) legible
        · exact direct misdirects

end Counts

end Delivery

end Bazaar
