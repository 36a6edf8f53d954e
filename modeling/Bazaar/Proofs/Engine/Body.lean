import Bazaar.Platform.Usual
import Bazaar.Proofs.Client
import Bazaar.Proofs.Engine.Requests
import Bazaar.Proofs.Hit.Range
import Bazaar.Proofs.Text.Utf8

/-!
# The body of an answer

What a search comes to when it ends with an answer of status 200.  The body decides: an object with
a list of hits is a response if everything that is asked for can be read, and any other body is a
failure of decoding.  The ways out are a number or a time out of range, an integer too long to be
written as text, and arrays or objects too deep within each other.
-/

namespace Bazaar

variable [Platform]

/-- Whether a body is an object with a list of hits. -/
def Json.Lists (bytes : List UInt8) (payload : Members) (items : List Json) : Prop :=
  Json.readBytes bytes = .ok (.obj payload) ∧ payload.get? "hits" = some (.arr items)

/-- Whether a body holds arrays or objects within each other beyond what can be read. -/
def Json.TooDeep (bytes : List UInt8) : Prop :=
  ∃ refusal, Json.readBytes bytes = .error refusal ∧ refusal.kind = .recursion

namespace Engine

section Payload

variable (kind : HitKind) (hitsPerPage : Int) {bytes : List UInt8}

theorem readPayload_of_lists {payload : Members} {items : List Json}
    (lists : Json.Lists bytes payload items) :
    (readPayload kind hitsPerPage (Delivery.membersOf bytes)).2 =
      (Response.ofMembers payload kind hitsPerPage).2 := by
  rw [Delivery.membersOf, lists.1]
  rfl

omit [Platform] in
theorem callsForAnother_of_escapes {raised : Raised} (escapes : raised.Escapes) :
    callsForAnother (.error raised : Except Raised Response) = false := by
  cases raised with
  | failure f => exact escapes.elim
  | _ => rfl

theorem readPayload_of_tooDeep (deep : Json.TooDeep bytes) :
    ∃ fault, (readPayload kind hitsPerPage (Delivery.membersOf bytes)).2 = .error (.fault fault) ∧
      fault.kind = .recursion := by
  obtain ⟨refusal, refused, isDeep⟩ := deep
  refine ⟨Fault.simple .recursion refusal.message, ?_, rfl⟩
  rw [Delivery.membersOf, refused]
  simp [isDeep, readPayload]

theorem readPayload_of_other (unlisted : ∀ payload items, ¬Json.Lists bytes payload items)
    (shallow : ¬Json.TooDeep bytes) :
    ∃ f, (readPayload kind hitsPerPage (Delivery.membersOf bytes)).2 = .error (.failure f) ∧
      f.kind = .decode := by
  unfold Delivery.membersOf
  cases read : Json.readBytes bytes with
  | error refusal =>
      have other : refusal.kind ≠ .recursion := fun isDeep => shallow ⟨refusal, read, isDeep⟩
      simp [other, readPayload, Delivery.failed]
  | ok v =>
      cases v with
      | obj payload =>
          refine ⟨Response.noHits, ?_, rfl⟩
          have noHits := Response.ofMembers_of_no_hits hitsPerPage kind
            fun items listed => unlisted payload items ⟨read, listed⟩
          exact congrArg Prod.snd noHits
      | _ => exact ⟨_, rfl, rfl⟩

end Payload

variable {e : Engine} {r : Request} {supply : Supply}

/-- Reading the members of an answer needs that everything fits that its kind of record asks for,
and this is all that it needs.  So when a search comes to an answer of status 200, the body decides
what it ends with: the response if the body is an object with a list of hits in which all fits, and
a failure of decoding if it is anything else, be it no JSON or an integer too long to be read.  A
body with a list of hits in which something does not fit ends it with what escapes instead of a
result, and one that is too deep ends it with the fault of the reader. -/
theorem execute_ends_with_body {a : Answer} {bytes : List UInt8} {made : Nat}
    (accepted : e.policy.fault? = none)
    (sent : made < ((e.execute r).run supply {}).requests.length)
    (receives : e.client.Receives (e.physicalIndex r) (supply.deliveries made) a)
    (status : a.status = 200) (plain : a.badHeader? = none) (decoded : a.content = .ok bytes) :
    let kind := HitKind.ofName (e.spec r.index).kind
    let result := ((e.execute r).run supply {}).result
    (∀ (payload : Members) (kind : HitKind) (hitsPerPage : Int),
      let answer := (Response.ofMembers payload kind hitsPerPage).2
      (Reads answer ↔
        ∃ items, payload.get? "hits" = some (.arr items) ∧ Response.Fits kind payload items) ∧
      (answer = .error (.failure Response.noHits) ↔
        ∀ items, payload.get? "hits" ≠ some (.arr items)) ∧
      ((∃ raised, answer = .error raised ∧ raised.Escapes) ↔
        ∃ items, payload.get? "hits" = some (.arr items) ∧ ¬Response.Fits kind payload items)) ∧
    (∀ payload items, Json.Lists bytes payload items → Response.Fits kind payload items →
      ∃ answer, (Response.ofMembers payload kind r.hitsPerPage).2 = .ok answer ∧
        result = .ok (success r answer (made + 1))) ∧
    (∀ payload items, Json.Lists bytes payload items → ¬Response.Fits kind payload items →
      ∃ raised, (Response.ofMembers payload kind r.hitsPerPage).2 = .error raised ∧
        raised.Escapes ∧ result = .error raised) ∧
    ((∀ payload items, ¬Json.Lists bytes payload items) → ¬Json.TooDeep bytes →
      ∃ f, f.kind = .decode ∧
        result = .ok {
          index := r.index
          query := r.term
          page := r.page
          hitsPerPage := r.hitsPerPage
          attempts := (made + 1 : Nat)
          failure := some f }) ∧
    (Json.TooDeep bytes → ∃ fault, fault.kind = .recursion ∧ result = .error (.fault fault)) := by
  intro kind result
  have outcomeEq : e.outcome r supply (made + 1) =
      (readPayload kind r.hitsPerPage (Delivery.membersOf bytes)).2 :=
    congrArg (fun payload => (readPayload kind r.hitsPerPage payload).2)
      (receives.payload_of_ok status plain decoded r.written _)
  have ends := result_of_sent accepted sent
  refine ⟨Response.ofMembers_cases, ?_, ?_, ?_, ?_⟩
  · intro payload items lists fits
    obtain ⟨answer, read⟩ := Response.exists_ofMembers_eq_ok r.hitsPerPage lists.2 fits
    rw [readPayload_of_lists _ _ lists, read] at outcomeEq
    refine ⟨answer, read, (ends (by rw [outcomeEq]; rfl)).trans ?_⟩
    rw [verdict, outcomeEq]
  · intro payload items lists misfit
    obtain ⟨raised, failed, escapes⟩ :=
      Response.exists_ofMembers_eq_error r.hitsPerPage lists.2 misfit
    rw [readPayload_of_lists _ _ lists, failed] at outcomeEq
    have final : callsForAnother (e.outcome r supply (made + 1)) = false := by
      rw [outcomeEq]
      exact callsForAnother_of_escapes escapes
    refine ⟨raised, failed, escapes, (ends final).trans ?_⟩
    rw [verdict, outcomeEq]
    cases raised with
    | failure f => exact escapes.elim
    | _ => rfl
  · intro unlisted shallow
    obtain ⟨f, failed, isDecode⟩ := readPayload_of_other kind r.hitsPerPage unlisted shallow
    rw [failed] at outcomeEq
    have final : callsForAnother (e.outcome r supply (made + 1)) = false := by
      rw [outcomeEq, callsForAnother_failure, isDecode]
      rfl
    refine ⟨f, isDecode, (ends final).trans ?_⟩
    rw [verdict, outcomeEq]
  · intro deep
    obtain ⟨fault, failed, isDeep⟩ := readPayload_of_tooDeep kind r.hitsPerPage deep
    rw [failed] at outcomeEq
    refine ⟨fault, isDeep, (ends (by rw [outcomeEq]; rfl)).trans ?_⟩
    rw [verdict, outcomeEq]

omit [Platform] in
/-- A shop created at the midnight behind the last day of the calendar. -/
theorem execute_ends_with_body_behind_last_day :
    letI := Platform.usual
    let e : Engine := {
      client := ⟨{ scheme := "https".toList, host := "a.b".toList }, "A", "K"⟩
      catalog := [("shops", { name := "shops", kind := "shop" })] }
    let r : Request := { index := "shops" }
    let shop : Members :=
      [("objectID", .str (.ofString "s1")), ("createdAt", .str (.ofString "9999-12-31T24:00"))]
    let text :=
      "\x7b\"hits\":[\x7b\"objectID\":\"s1\",\"createdAt\":\"9999-12-31T24:00\"\x7d]\x7d".toList
    let body := Text.utf8 text
    let supply : Supply := {
      draws := fun _ => 0.5
      times := fun _ => 0
      deliveries := fun _ => .answered { body := body } }
    Json.Lists body [("hits", .arr [.obj shop])] [.obj shop] ∧
      ∃ raised, raised.Escapes ∧ ((e.execute r).run supply {}).result = .error raised := by
  let _ := Platform.usual
  intro e r shop text body supply
  have decoded : Text.decodeDocument body = .ok (Phrase.ofChars text) :=
    Text.decodeWideUtf8_utf8 text
  have lists : Json.Lists body [("hits", .arr [.obj shop])] [.obj shop] := by
    refine ⟨?_, rfl⟩
    rw [Json.readBytes, decoded]
    dsimp only [text, shop]
    cbv
  have physical : e.physicalIndex r = "shops" := by decide +kernel
  have receives : e.client.Receives (e.physicalIndex r) (supply.deliveries 0) { body := body } := by
    rw [physical]
    exact ⟨⟨_, Client.address_shops, rfl⟩, rfl⟩
  have accepted : e.policy.fault? = none := RetryPolicy.fault?_default
  have written : Reads r.params := Request.reads_params_iff.mpr
    ⟨Platform.allows_of_le (by decide), Platform.allows_of_le (by decide)⟩
  have sent : 0 < ((e.execute r).run supply {}).requests.length :=
    length_requests_pos accepted written rfl
  have misfit : ¬Response.Fits .shop [("hits", .arr [.obj shop])] [.obj shop] := by
    intro fits
    have identified : Members.text shop "objectID" = .ok (Phrase.ofString "s1") := by decide
    have shopFits : HitKind.shop.Fits shop :=
      ((fits.1 (.obj shop) (List.mem_singleton_self _)).2 shop rfl).2 _ identified (by decide)
    have created := shopFits ("createdAt", .time?) (by decide +kernel) _ rfl
    exact created _ (Phrase.string?_ofString _) rfl
  obtain ⟨-, -, escape, -, -⟩ :=
    execute_ends_with_body accepted sent receives rfl rfl rfl
  obtain ⟨raised, -, escapes, result⟩ := escape _ _ lists misfit
  exact ⟨lists, raised, escapes, result⟩

end Engine

end Bazaar
