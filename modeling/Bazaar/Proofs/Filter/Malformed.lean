import Bazaar.Platform.Usual
import Bazaar.Proofs.Decimal.Range
import Bazaar.Proofs.Filter.Compile
import Bazaar.Proofs.Service.Plan
import Bazaar.Service.Basic

/-!
# Entries that ask for nothing

An entry of a mapping that says nothing usable is passed over: the filter is that of the mapping
without it.  Two kinds of entries are not passed over but stop the filter.  An integer out of the
range of doubles where a bound is asked for is one: whether it is finite is asked in the doubles,
and the question overflows.  The other is an integer among the texts of an entry that has more
digits than the platform writes.
-/

namespace Bazaar

namespace Filter

open Decimal (limit)

/-! ## Kinds of entries -/

/-- Whether a key asks for a bound. -/
def IsBoundKey (key : String) : Prop :=
  ∃ relation rest, key.toList = Bound.keyStart relation ++ rest

/-- An integer out of the range of doubles where a bound is asked for. -/
structure IsWideBound (key : String) (v : Value) : Prop where
  asks : IsBoundKey key
  wide : ∃ n, v = .int n ∧ limit ≤ n.natAbs

/-- An entry with an integer among its texts that is too long to be written. -/
def IsTooLong [Platform] (e : Value × Value) : Prop :=
  ¬Platform.Allows (entryDigits e.1 e.2)

/-- An entry that is not passed over but stops the filter. -/
inductive Stops [Platform] (e : Value × Value) : NumberFault → Prop where
  /-- The integer does not become a double. -/
  | wide : ¬IsTooLong e → IsWideBound e.1.text e.2 → Stops e (.overflow .intToFloat)
  /-- The text is not written. -/
  | tooLong {limit : {limit : Nat // 640 ≤ limit}} : Platform.digitLimit = some limit →
      limit.val < entryDigits e.1 e.2 → Stops e (.writing limit.val)

/-- An entry that says nothing usable. -/
inductive IsMalformed (key : String) : Value → Prop where
  /-- A number is no criterion but as a bound. -/
  | number {v : Value} {a : Number} : v.number? = some a → ¬IsBoundKey key → IsMalformed key v
  /-- An infinity and the undefined value are no bounds. -/
  | notFinite {x : Float} : Decimal.isFinite x = false → IsMalformed key (.float x)
  /-- No texts are no alternatives. -/
  | noTexts {v : Value} : alternatives? v = some [] → IsMalformed key v
  | null : IsMalformed key .null
  | bytes (bs : List UInt8) : IsMalformed key (.bytes bs)
  | date (d : Calendar.Date) : IsMalformed key (.date d)
  | dateTime (t : Calendar.DateTime) : IsMalformed key (.dateTime t)
  | map (entries : List (Value × Value)) : IsMalformed key (.map entries)

/-! ## One entry -/

section Entry

variable {key : String} {a : Number} {v : Value}

theorem ofKey?_eq_none_iff : Bound.ofKey? key.toList = none ↔ ¬IsBoundKey key := by
  unfold Bound.ofKey? IsBoundKey
  dsimp only
  constructor
  · rintro none_asked ⟨relation, rest, spelled⟩
    cases relation with
    | atLeast =>
        rw [spelled, Text.after?_append] at none_asked
        cases none_asked
    | atMost =>
        split at none_asked
        · cases none_asked
        · rw [spelled, Text.after?_append] at none_asked
          cases none_asked
  · intro noBound
    split
    · rename_i rest found
      exact absurd ⟨.atLeast, rest, Text.after?_eq_some_iff.mp found⟩ noBound
    · rw [Option.map_eq_none_iff, Option.eq_none_iff_forall_ne_some]
      exact fun rest found => noBound ⟨.atMost, rest, Text.after?_eq_some_iff.mp found⟩

theorem ofNumber?_of_noBound (noBound : ¬IsBoundKey key) (a : Number) :
    Criterion.ofNumber? key a = .ok none := by
  rw [Criterion.ofNumber?, ofKey?_eq_none_iff.mpr noBound]

/-- A number under a key that asks for a bound is asked whether it is finite. -/
theorem ofNumber?_of_bound (asks : IsBoundKey key) (a : Number) :
    ∃ c, Criterion.ofNumber? key a =
      a.isFinite.map fun finite => if finite then some c else none := by
  cases asked : Bound.ofKey? key.toList with
  | none => exact absurd asks (ofKey?_eq_none_iff.mp asked)
  | some bound =>
      refine ⟨.bound (String.ofList bound.2) bound.1 (numberText a), ?_⟩
      rw [Criterion.ofNumber?, asked]
      cases a.isFinite with
      | error o => rfl
      | ok finite => cases finite <;> rfl

theorem sortedTexts_eq_nil_iff {items : List Value} : sortedTexts items = [] ↔ items = [] := by
  rw [← List.length_eq_zero_iff, sortedTexts_eq, (Text.sorted_perm _).length_eq, List.length_map,
    List.length_eq_zero_iff]

theorem ofTexts?_eq_none_iff {texts : List String} :
    Criterion.ofTexts? key texts = none ↔ texts = [] := by
  cases texts <;> simp [Criterion.ofTexts?]

variable [Platform] {items : List Value} {fault : NumberFault}

/-- What an entry with an integer comes to. -/
theorem ofEntry?_int (key : String) (n : Int) :
    ¬IsBoundKey key ∧ Criterion.ofEntry? key (.int n) = .ok none ∨
      IsWideBound key (.int n) ∧
        Criterion.ofEntry? key (.int n) = .error (.overflow .intToFloat) ∨
      IsBoundKey key ∧ n.natAbs < limit ∧ ∃ c, Criterion.ofEntry? key (.int n) = .ok (some c) := by
  by_cases asks : IsBoundKey key
  · right
    obtain ⟨c, comes⟩ := ofNumber?_of_bound asks (.int n)
    rw [Criterion.ofEntry?, comes]
    rcases Nat.lt_or_ge n.natAbs limit with small | wide
    · refine .inr ⟨asks, small, c, ?_⟩
      rw [isFinite_int ((Number.floatOfInt_eq_ok_iff n).mpr small)]
      rfl
    · refine .inl ⟨⟨asks, n, rfl, wide⟩, ?_⟩
      rw [Number.isFinite, Number.toFloat, (Number.floatOfInt_eq_error_iff n).mpr wide]
      rfl
  · refine .inl ⟨asks, ?_⟩
    rw [Criterion.ofEntry?, ofNumber?_of_noBound asks]
    rfl

/-- What an entry with a double comes to. -/
theorem ofEntry?_float (key : String) (x : Float) :
    IsMalformed key (.float x) ∧ Criterion.ofEntry? key (.float x) = .ok none ∨
      IsBoundKey key ∧ Decimal.isFinite x = true ∧
        ∃ c, Criterion.ofEntry? key (.float x) = .ok (some c) := by
  by_cases asks : IsBoundKey key
  · obtain ⟨c, comes⟩ := ofNumber?_of_bound asks (.float x)
    rw [Criterion.ofEntry?, comes, Number.isFinite, Number.toFloat]
    cases finite : Decimal.isFinite x with
    | false => exact .inl ⟨.notFinite finite, by simp [Except.map, Except.mapError, finite]⟩
    | true => exact .inr ⟨asks, rfl, c, by simp [Except.map, Except.mapError, finite]⟩
  · refine .inl ⟨.number rfl asks, ?_⟩
    rw [Criterion.ofEntry?, ofNumber?_of_noBound asks]
    rfl

/-- What an entry with alternatives comes to. -/
theorem exists_ofEntry?_group (key : String) (group : alternatives? v = some items) :
    ∃ c?, (c? = none ↔ items = []) ∧
      Criterion.ofEntry? key v = (Value.checkTexts items).map fun _ => c? := by
  cases v with
  | list _ | tuple _ =>
      cases group
      exact ⟨_, by rw [ofTexts?_eq_none_iff, List.map_eq_nil_iff], rfl⟩
  | set _ | frozenSet _ =>
      cases group
      exact ⟨_, by rw [ofTexts?_eq_none_iff, sortedTexts_eq_nil_iff], rfl⟩
  | _ => cases group

theorem checkTexts_eq_error_iff : Value.checkTexts items = .error fault ↔
    ∃ limit : {limit : Nat // 640 ≤ limit}, Platform.digitLimit = some limit ∧
      limit.val < Value.digitsOfItems items ∧ fault = .writing limit.val := by
  rw [Value.checkTexts, Platform.checkWriting, Platform.check_eq_error_iff]

omit [Platform] in
theorem narrow_of_ne_int (noInt : ∀ n, v ≠ .int n) : ¬IsWideBound key v := by
  rintro ⟨-, n, isInt, -⟩
  exact noInt n isInt

/-- The only values that are no criterion and are not passed over. -/
theorem ofEntry?_eq_error_iff :
    Criterion.ofEntry? key v = .error fault ↔
      IsWideBound key v ∧ fault = .overflow .intToFloat ∨
        ∃ items, alternatives? v = some items ∧ Value.checkTexts items = .error fault := by
  cases group : alternatives? v with
  | some items =>
      have narrow : ¬IsWideBound key v := narrow_of_ne_int fun n isInt => by
        rw [isInt] at group
        cases group
      obtain ⟨c?, -, comes⟩ := exists_ofEntry?_group key group
      simp only [comes, narrow, false_and, false_or, Option.some.injEq, exists_eq_left']
      cases Value.checkTexts items <;> simp [Except.map]
  | none =>
      simp only [reduceCtorEq, false_and, exists_false, or_false]
      cases v with
      | int n =>
          rcases ofEntry?_int key n with ⟨noBound, comes⟩ | ⟨wide, comes⟩ | ⟨-, small, c, comes⟩
          · rw [comes]
            exact iff_of_false (by rintro ⟨⟩) fun both => noBound both.1.asks
          · rw [comes, Except.error.injEq]
            exact ⟨fun same => ⟨wide, same.symm⟩, fun both => both.2.symm⟩
          · rw [comes]
            refine iff_of_false (by rintro ⟨⟩) ?_
            rintro ⟨⟨-, m, isInt, wide⟩, -⟩
            cases isInt
            exact wide.not_gt small
      | float x =>
          refine iff_of_false ?_ fun both => narrow_of_ne_int (by rintro n ⟨⟩) both.1
          rcases ofEntry?_float key x with ⟨-, comes⟩ | ⟨-, -, c, comes⟩ <;>
            rw [comes] <;> rintro ⟨⟩
      | list _ | tuple _ | set _ | frozenSet _ => cases group
      | _ => exact iff_of_false (by rintro ⟨⟩) fun both => narrow_of_ne_int (by rintro n ⟨⟩) both.1

omit [Platform] in
/-- A group that says nothing usable is empty. -/
theorem isMalformed_group_iff (group : alternatives? v = some items) :
    IsMalformed key v ↔ items = [] := by
  constructor
  · intro malformed
    cases malformed with
    | number isNumber _ =>
        cases v with
        | int _ | float _ => cases group
        | _ => cases isNumber
    | noTexts none_there => exact Option.some.inj (group.symm.trans none_there)
    | _ => cases group
  · rintro rfl
    exact .noTexts group

/-- The values that are passed over are those that say nothing usable. -/
theorem ofEntry?_eq_none_iff : Criterion.ofEntry? key v = .ok none ↔ IsMalformed key v := by
  cases group : alternatives? v with
  | some items =>
      obtain ⟨c?, isNone, comes⟩ := exists_ofEntry?_group key group
      rw [comes, isMalformed_group_iff group, ← isNone]
      constructor
      · intro passed
        obtain ⟨_, -, none_there⟩ := exists_of_map_eq_ok passed
        exact none_there
      · intro none_there
        have empty := isNone.mp none_there
        rw [none_there, empty, checkTexts_of_allows (Platform.allows_of_le (Nat.zero_le _))]
        rfl
  | none =>
      cases v with
      | int n =>
          rcases ofEntry?_int key n with
            ⟨noBound, comes⟩ | ⟨⟨asks, -⟩, comes⟩ | ⟨asks, -, c, comes⟩
          · rw [comes]
            exact iff_of_true rfl (.number rfl noBound)
          all_goals
            rw [comes]
            refine iff_of_false (by rintro ⟨⟩) ?_
            rintro (⟨-, noBound⟩ | - | noTexts)
            · exact noBound asks
            · cases noTexts
      | float x =>
          rcases ofEntry?_float key x with ⟨malformed, comes⟩ | ⟨asks, finite, c, comes⟩
          · rw [comes]
            exact iff_of_true rfl malformed
          · rw [comes]
            refine iff_of_false (by rintro ⟨⟩) ?_
            rintro (⟨-, noBound⟩ | notFinite | noTexts)
            · exact noBound asks
            · rw [finite] at notFinite
              cases notFinite
            · cases noTexts
      | bool b | str s | sortKey k =>
          refine iff_of_false (by rintro ⟨⟩) ?_
          rintro (⟨isNumber, -⟩ | - | noTexts)
          · cases isNumber
          · cases noTexts
      | null => exact iff_of_true rfl .null
      | bytes bs => exact iff_of_true rfl (.bytes bs)
      | date d => exact iff_of_true rfl (.date d)
      | dateTime t => exact iff_of_true rfl (.dateTime t)
      | map entries => exact iff_of_true rfl (.map entries)
      | list _ | tuple _ | set _ | frozenSet _ => cases group

end Entry

/-! ## Mappings -/

section Mapping

variable [Platform] {m : Mapping} {e : Value × Value} {fault : NumberFault}

omit [Platform] in
theorem chars_ne_nil (c : Criterion) : c.chars ≠ [] := by
  cases c with
  | bound field relation number => cases relation <;> simp [Criterion.chars, Bound.sign]
  | flag field value => simp [Criterion.chars]
  | text field wanted => simp [Criterion.chars, termChars]
  | anyOf field texts => simp [Criterion.chars]

omit [Platform] in
theorem entryDigits_of_group {key v : Value} {items : List Value}
    (group : alternatives? v = some items) :
    entryDigits key v = max key.digits (Value.digitsOfItems items) := by
  rw [entryDigits, group]
  rfl

omit [Platform] in
theorem entryDigits_of_no_group {key v : Value} (noGroup : alternatives? v = none) :
    entryDigits key v = key.digits := by
  rw [entryDigits, noGroup]
  exact Nat.max_eq_left (Nat.zero_le _)

omit [Platform] in
theorem alternatives?_of_wide {key : String} {v : Value} (wide : IsWideBound key v) :
    alternatives? v = none := by
  obtain ⟨-, n, rfl, -⟩ := wide
  rfl

omit [Platform] in
/-- What says nothing usable shows no integer. -/
theorem entryDigits_of_malformed {key v : Value} {name : String} (malformed : IsMalformed name v) :
    entryDigits key v = key.digits := by
  cases group : alternatives? v with
  | none => exact entryDigits_of_no_group group
  | some items =>
      have empty := (isMalformed_group_iff group).mp malformed
      rw [entryDigits_of_group group, empty]
      exact Nat.max_eq_left (Nat.zero_le _)

/-- The entries that stop the filter are those without an outcome. -/
theorem ofPair?_eq_error_iff : Criterion.ofPair? e = .error fault ↔ Stops e fault := by
  obtain ⟨key, v⟩ := e
  by_cases allows : Platform.Allows key.digits
  · rw [ofPair?_of_allows allows, ofEntry?_eq_error_iff]
    constructor
    · rintro (⟨wide, rfl⟩ | ⟨items, group, tooLong⟩)
      · refine .wide ?_ wide
        rw [IsTooLong, entryDigits_of_no_group (alternatives?_of_wide wide), not_not]
        exact allows
      · obtain ⟨limit, given, above, rfl⟩ := checkTexts_eq_error_iff.mp tooLong
        refine .tooLong given ?_
        rw [entryDigits_of_group group]
        exact above.trans_le (Nat.le_max_right _ _)
    · intro stops
      cases stops with
      | wide short wide => exact .inl ⟨wide, rfl⟩
      | @tooLong limit given above =>
          refine .inr ?_
          have within := allows limit given
          cases group : alternatives? v with
          | none =>
              rw [entryDigits_of_no_group group] at above
              exact absurd above (Nat.not_lt.mpr within)
          | some items =>
              rw [entryDigits_of_group group, lt_max_iff] at above
              have beyond := above.resolve_left (Nat.not_lt.mpr within)
              exact ⟨items, rfl, checkTexts_eq_error_iff.mpr ⟨limit, given, beyond, rfl⟩⟩
  · obtain ⟨limit, given, above⟩ := Platform.not_allows_iff.mp allows
    have fails : Criterion.ofPair? (key, v) = .error (.writing limit.val) := by
      rw [Criterion.ofPair?, Value.write_eq_error_iff.mpr ⟨limit, given, above, rfl⟩]
      rfl
    have beyond : limit.val < entryDigits key v := above.trans_le (Nat.le_max_left _ _)
    rw [fails, Except.error.injEq]
    constructor
    · rintro rfl
      exact .tooLong given beyond
    · intro stops
      cases stops with
      | wide short wide => exact absurd (Platform.not_allows_iff.mpr ⟨limit, given, beyond⟩) short
      | tooLong given' => rw [Option.some.inj (given.symm.trans given')]

/-- The entries that are passed over are those that say nothing usable. -/
theorem ofPair?_eq_none_iff :
    Criterion.ofPair? e = .ok none ↔ ¬IsTooLong e ∧ IsMalformed e.1.text e.2 := by
  obtain ⟨key, v⟩ := e
  by_cases allows : Platform.Allows key.digits
  · rw [ofPair?_of_allows allows, ofEntry?_eq_none_iff]
    refine ⟨fun malformed => ⟨?_, malformed⟩, And.right⟩
    rw [IsTooLong, entryDigits_of_malformed malformed, not_not]
    exact allows
  · obtain ⟨limit, given, above⟩ := Platform.not_allows_iff.mp allows
    have beyond : limit.val < entryDigits key v := above.trans_le (Nat.le_max_left _ _)
    rw [ofPair?_eq_error_iff.mpr (.tooLong (e := (key, v)) given beyond)]
    exact iff_of_false (by rintro ⟨⟩) fun both =>
      both.1 (Platform.not_allows_iff.mpr ⟨limit, given, beyond⟩)

/-- An entry that stops the filter is too long or too wide. -/
theorem exists_stops_iff :
    (∃ fault, Stops e fault) ↔ IsTooLong e ∨ IsWideBound e.1.text e.2 := by
  constructor
  · rintro ⟨_, stops⟩
    cases stops with
    | wide short wide => exact .inr wide
    | tooLong given above => exact .inl (Platform.not_allows_iff.mpr ⟨_, given, above⟩)
  · intro either
    by_cases long : IsTooLong e
    · obtain ⟨limit, given, above⟩ := Platform.not_allows_iff.mp long
      exact ⟨_, .tooLong given above⟩
    · exact ⟨_, .wide long (either.resolve_left long)⟩

/-- The first entry that stops the filter says how. -/
theorem criteria_eq_error_iff : criteria m = .error fault ↔
    ∃ front e back, m = front ++ e :: back ∧ (∀ d ∈ front, ∀ other, ¬Stops d other) ∧
      Stops e fault := by
  induction m with
  | nil => simp [criteria]
  | cons e m ih =>
      rw [criteria]
      cases first : Criterion.ofPair? e with
      | error other =>
          have stops := ofPair?_eq_error_iff.mp first
          constructor
          · intro failed
            cases failed
            exact ⟨[], e, m, rfl, by simp, stops⟩
          · rintro ⟨front, e', back, whole, passing, stops'⟩
            cases front with
            | nil =>
                cases whole
                rw [ofPair?_eq_error_iff.mpr stops'] at first
                cases first
                rfl
            | cons d front =>
                cases whole
                exact absurd stops (passing e List.mem_cons_self other)
      | ok c? =>
          have passes (other : NumberFault) : ¬Stops e other := by
            rw [← ofPair?_eq_error_iff, first]
            rintro ⟨⟩
          -- Behind an entry that passes, only the rest can stop the reading.
          refine bind_pure_eq_error_iff.trans (ih.trans ?_)
          constructor
          · rintro ⟨front, e', back, rfl, passing, stops⟩
            exact ⟨e :: front, e', back, rfl, List.forall_mem_cons.mpr ⟨passes, passing⟩, stops⟩
          · rintro ⟨front, e', back, whole, passing, stops⟩
            cases front with
            | nil =>
                cases whole
                exact absurd stops (passes fault)
            | cons d front =>
                cases whole
                exact ⟨front, e', back, rfl, (List.forall_mem_cons.mp passing).2, stops⟩

theorem compile_eq_error_iff : compile m = .error fault ↔ criteria m = .error fault := by
  rw [compile]
  cases criteria m <;> simp [Except.map]

theorem reads_ofPair?_iff : Bazaar.Reads (Criterion.ofPair? e) ↔
    ¬IsTooLong e ∧ ¬IsWideBound e.1.text e.2 := by
  rw [← not_or, ← exists_stops_iff, not_exists]
  simp only [← ofPair?_eq_error_iff]
  cases Criterion.ofPair? e <;> simp

/-- A mapping has a filter, unless one of its entries stops it. -/
theorem exists_compile_iff : (∃ text, compile m = .ok text) ↔
    ∀ e ∈ m, ¬IsTooLong e ∧ ¬IsWideBound e.1.text e.2 := by
  show Bazaar.Reads (compile m) ↔ _
  rw [compile, reads_map_iff]
  induction m with
  | nil => simp [criteria]
  | cons e m ih =>
      rw [List.forall_mem_cons, ← ih, ← reads_ofPair?_iff, criteria]
      exact reads_bind_iff fun c? => reads_bind_of_reads fun cs => reads_pure _

theorem compile_of_malformed {front back : Mapping} (short : ¬IsTooLong e)
    (malformed : IsMalformed e.1.text e.2) :
    compile (front ++ e :: back) = compile (front ++ back) := by
  have same : criteria (e :: back) = criteria back := by
    rw [criteria, ofPair?_eq_none_iff.mpr ⟨short, malformed⟩]
    cases criteria back <;> rfl
  rw [compile, compile, criteria_append_congr same]

/-- An entry alone has the empty filter exactly if it says nothing usable. -/
theorem compile_singleton_iff (e : Value × Value) :
    compile [e] = .ok "" ↔ ¬IsTooLong e ∧ IsMalformed e.1.text e.2 := by
  rw [← ofPair?_eq_none_iff, compile, criteria]
  cases Criterion.ofPair? e with
  | error fault => exact iff_of_false (by rintro ⟨⟩) (by rintro ⟨⟩)
  | ok c? =>
      cases c? with
      | none => exact iff_of_true rfl rfl
      | some c =>
          refine iff_of_false (fun empty => chars_ne_nil c ?_) (by rintro ⟨⟩)
          have same : render [c] = "" := Except.ok.inj empty
          simpa [render, Text.joinWith] using same

end Mapping

/-! ## Searches -/

section Search

variable [Platform] (s : Service) (index term : String) (options : SearchOptions) (b : Backend)
  (supplies : Nat → Supply)

/-- A search whose filter can be written gives a result, whatever its backend does. -/
theorem exists_yields_search (compiles : ∃ text, compile options.filters = .ok text) :
    ∃ result, (s.search index term (some options)).Yields b supplies result := by
  obtain ⟨text, compiled⟩ := compiles
  rw [Service.search, Service.request, Request.build, Option.getD_some, compiled]
  exact ⟨_, Plan.yields_alone _ id⟩

/-- A search whose filter cannot be written raises before its backend is asked. -/
theorem await_search_of_error {fault : NumberFault}
    (fails : compile options.filters = .error fault) (order : List Nat) :
    (s.search index term (some options)).await b supplies order =
      some (.error fault.raised) := by
  have stays (n : Nat) : (Part.turn (supplies 0))^[n]
      (⟨.done (.error fault.raised), {}⟩ : Part (Except Raised SearchResult)) =
        ⟨.done (.error fault.raised), {}⟩ := Function.iterate_fixed rfl n
  rw [Service.search, Service.request, Request.build, Option.getD_some, fails]
  show ((Part.turn (supplies 0))^[order.count 0]
    (⟨.done (.error fault.raised), {}⟩ : Part (Except Raised SearchResult))).result?.map
      (·.map id) = _
  rw [stays]
  rfl

end Search

/-- A filter is written without the entries that say nothing usable, unless an entry stops it: an
integer out of the range of doubles where a bound is asked for, or a text with an integer that has
more digits than the platform writes.  Then the first such entry says what is raised, and a search
with it raises the same. -/
theorem compile_passes_over_malformed [Platform] (m : Mapping) :
    ((∃ text, compile m = .ok text) ↔
      ∀ e ∈ m, ¬IsTooLong e ∧ ¬IsWideBound e.1.text e.2) ∧
    (∀ fault, compile m = .error fault ↔ ∃ front e back, m = front ++ e :: back ∧
      (∀ d ∈ front, ∀ other, ¬Stops d other) ∧ Stops e fault) ∧
    ((∃ e ∈ m, IsWideBound e.1.text e.2) → (∀ e ∈ m, ¬IsTooLong e) →
      compile m = .error (.overflow .intToFloat)) ∧
    (∀ e, compile [e] = .ok "" ↔ ¬IsTooLong e ∧ IsMalformed e.1.text e.2) ∧
    (∀ front e back, m = front ++ e :: back → ¬IsTooLong e → IsMalformed e.1.text e.2 →
      compile m = compile (front ++ back)) ∧
    ∀ (s : Service) (index term : String) (options : SearchOptions) (b : Backend)
      (supplies : Nat → Supply),
      let plan := s.search index term (some { options with filters := m })
      ((∀ e ∈ m, ¬IsTooLong e ∧ ¬IsWideBound e.1.text e.2) →
        ∃ result, plan.Yields b supplies result) ∧
      ∀ fault, compile m = .error fault → ∀ order,
        plan.await b supplies order = some (.error fault.raised) := by
  have either (fault : NumberFault) : compile m = .error fault ↔ _ :=
    compile_eq_error_iff.trans criteria_eq_error_iff
  refine ⟨exists_compile_iff, either, ?_, compile_singleton_iff, ?_, ?_⟩
  · rintro ⟨e, member, wide⟩ short
    cases compiled : compile m with
    | ok text => exact absurd wide (exists_compile_iff.mp ⟨text, compiled⟩ e member).2
    | error fault =>
        obtain ⟨front, d, back, rfl, -, stops⟩ := (either fault).mp compiled
        cases stops with
        | wide _ _ => rfl
        | tooLong given above =>
            exact absurd (Platform.not_allows_iff.mpr ⟨_, given, above⟩) (short d (by simp))
  · rintro front e back rfl short malformed
    exact compile_of_malformed short malformed
  · intro s index term options b supplies plan
    constructor
    · exact fun passing =>
        exists_yields_search s index term _ b supplies (exists_compile_iff.mpr passing)
    · exact fun fault fails => await_search_of_error s index term _ b supplies fails

/-- A bound that is not finite is passed over; one that is too wide stops the filter and the
search. -/
theorem compile_passes_over_malformed_bounds :
    letI := Platform.usual
    let wide : Mapping := [(.str "minPrice", .int limit), (.str "status", .str "active")]
    let undefined : Mapping :=
      [(.str "minPrice", .float Decimal.undefined), (.str "status", .str "active")]
    compile wide = .error (.overflow .intToFloat) ∧
      (∀ (b : Backend) supplies order,
        (({} : Service).search "shops" "" (some { filters := wide })).await b supplies order =
          some (.error (.overflow .intToFloat))) ∧
      compile undefined = compile [(.str "status", .str "active")] := by
  let _ := Platform.usual
  intro wide undefined
  have short : ∀ e ∈ wide, ¬IsTooLong e := by
    intro e member
    simp only [wide, List.mem_cons, List.not_mem_nil, or_false] at member
    rcases member with rfl | rfl
    all_goals exact not_not.mpr (Platform.allows_of_le (by decide))
  have isWide : ∃ e ∈ wide, IsWideBound e.1.text e.2 :=
    ⟨_, List.mem_cons_self, ⟨.atLeast, ['P', 'r', 'i', 'c', 'e'], by decide⟩, limit, rfl,
      (Int.natAbs_natCast limit).ge⟩
  obtain ⟨-, -, overflows, -, -, searches⟩ := compile_passes_over_malformed wide
  obtain ⟨-, -, -, -, passed, -⟩ := compile_passes_over_malformed undefined
  refine ⟨overflows isWide short, fun b supplies => ?_, ?_⟩
  · exact (searches {} "shops" "" {} b supplies).2 _ (overflows isWide short)
  · refine passed [] _ _ rfl (not_not.mpr (Platform.allows_of_le (by decide))) ?_
    exact .notFinite (by decide +kernel)

end Filter

end Bazaar
