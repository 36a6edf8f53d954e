import Bazaar.Command.Program
import Bazaar.Platform.Usual
import Bazaar.Proofs.Decimal.Range
import Bazaar.Proofs.Outcome
import Bazaar.Proofs.Platform

/-!
# What a configuration is refused with

Every reader and check of a configuration refuses with a fault of type or value, but for one: a
number of the retry section that is an integer out of the range of doubles overflows when it is
read. The overflow is no refusal, and the program lets it through.
-/

namespace Bazaar

/-- A value that is a number in the range of doubles. -/
def Value.IsDouble : Value → Prop
  | .float _ => True
  | .int n => n.natAbs < Decimal.limit
  | _ => False

/-- An integer out of the range of doubles. -/
def Value.IsWide : Value → Prop
  | .int n => Decimal.limit ≤ n.natAbs
  | _ => False

/-- The first value of a list that is no double is an integer out of their range. -/
def Value.FirstIsWide (items : List Value) : Prop :=
  ∃ front v back, items = front ++ v :: back ∧ (∀ w ∈ front, w.IsDouble) ∧ v.IsWide

namespace Config

/-- The faults by which a configuration is refused. -/
def Fault.Refuses (fault : Fault) : Prop :=
  fault.kind = .type ∨ fault.kind = .value

/-- What reading a configuration can fail with. -/
def Fault.RefusesOrOverflows (fault : Fault) : Prop :=
  fault.Refuses ∨ fault = .number (.overflow .intToFloat)

/-- The time limits as they are written. -/
def writtenTimeouts (s : Mapping) : List Value :=
  match s.get? "timeout_progression" with
  | some (.list items) => items
  | _ => []

/-- The other numbers of the retry section in the order in which they are read. -/
def writtenDelays (s : Mapping) : List Value :=
  ["delay_factor", "randomization_factor", "max_delay"].filterMap s.get?

/-- When reading the retry section overflows: its first number that is no double is too wide an
integer, and nothing in front of it is refused. -/
def RetryOverflows (s : Mapping) : Prop :=
  Value.FirstIsWide (writtenTimeouts s) ∨
    Reads (readTimeouts s) ∧
      Reads (optional s "max_attempts" "retry.max_attempts" 3 asInteger) ∧
        Value.FirstIsWide (writtenDelays s)

/-! ## Faults of a chain of readers -/

/-- Whether a reader fails in one of these ways only. -/
def FailsWith (ways : Fault → Prop) (x : Checked α) : Prop :=
  ∀ fault, x = .error fault → ways fault

section Chain

variable {ways : Fault → Prop}

theorem failsWith_ok (a : α) : FailsWith ways (.ok a) := by
  intro fault failed
  cases failed

theorem failsWith_pure (a : α) : FailsWith ways (pure a) :=
  failsWith_ok a

theorem failsWith_error {fault : Fault} (way : ways fault) :
    FailsWith ways (.error fault : Checked α) := by
  intro fault' failed
  cases failed
  exact way

theorem FailsWith.mono {wider : Fault → Prop} {x : Checked α} (fails : FailsWith ways x)
    (weaker : ∀ fault, ways fault → wider fault) : FailsWith wider x :=
  fun fault failed => weaker fault (fails fault failed)

/-- A reader behind another one that gave something. -/
theorem FailsWith.bind_of_ok {x : Checked α} {f : α → Checked β} (first : FailsWith ways x)
    (behind : ∀ a, x = .ok a → FailsWith ways (f a)) : FailsWith ways (x >>= f) := by
  cases x with
  | error fault => exact failsWith_error (first fault rfl)
  | ok a => exact behind a rfl

theorem FailsWith.bind {x : Checked α} {f : α → Checked β} (first : FailsWith ways x)
    (behind : ∀ a, FailsWith ways (f a)) : FailsWith ways (x >>= f) :=
  first.bind_of_ok fun a _ => behind a

theorem FailsWith.map {x : Checked α} {f : α → β} (first : FailsWith ways x) :
    FailsWith ways (x.map f) := by
  cases x with
  | error fault => exact failsWith_error (first fault rfl)
  | ok a => exact failsWith_ok (f a)

theorem FailsWith.mapError {x : Except ε α} {f : ε → Fault} (each : ∀ e, ways (f e)) :
    FailsWith ways (x.mapError f) := by
  cases x with
  | error e => exact failsWith_error (each e)
  | ok a => exact failsWith_ok a

end Chain

/-! ## Typed access -/

section Access

variable {ways : Fault → Prop} {read : String → Value → Checked α}

theorem refuses_wrongType (key : String) (expected : Expected) :
    (Fault.wrongType key expected).Refuses :=
  .inl rfl

theorem refuses_missing (key : String) : (Fault.missing key).Refuses :=
  .inr rfl

theorem refuses_section? (root : Mapping) (key : String) (isRequired : Bool) :
    FailsWith Fault.Refuses (section? root key isRequired) := by
  unfold section?
  split
  · split
    · exact failsWith_error (refuses_missing key)
    · exact failsWith_ok _
  · split
    · exact failsWith_error (refuses_missing key)
    · exact failsWith_ok _
  · exact failsWith_ok _
  · exact failsWith_error (refuses_wrongType key .object)

theorem refuses_asWord (key : String) (v : Value) : FailsWith Fault.Refuses (asWord key v) := by
  cases v with
  | str | sortKey => exact failsWith_ok _
  | _ => exact failsWith_error (refuses_wrongType key .string)

theorem refuses_asText (key : String) (v : Value) : FailsWith Fault.Refuses (asText key v) :=
  (refuses_asWord key v).map

theorem refuses_asFlag (key : String) (v : Value) : FailsWith Fault.Refuses (asFlag key v) := by
  cases v with
  | bool => exact failsWith_ok _
  | _ => exact failsWith_error (refuses_wrongType key .boolean)

theorem refuses_asInteger (key : String) (v : Value) :
    FailsWith Fault.Refuses (asInteger key v) := by
  cases v with
  | int => exact failsWith_ok _
  | _ => exact failsWith_error (refuses_wrongType key .integer)

theorem refuses_asMapping (key : String) (v : Value) :
    FailsWith Fault.Refuses (asMapping key v) := by
  cases v with
  | map => exact failsWith_ok _
  | _ => exact failsWith_error (refuses_wrongType key .object)

theorem failsWith_readItems (each : ∀ key v, FailsWith ways (read key v)) (key : String)
    (place : Nat) (items : List Value) : FailsWith ways (readItems read key place items) := by
  induction items generalizing place with
  | nil => exact failsWith_ok _
  | cons v rest ih => exact (each _ v).bind fun _ => (ih _).bind fun _ => failsWith_ok _

theorem failsWith_asList (wrongType : ∀ key expected, ways (.wrongType key expected))
    (each : ∀ key v, FailsWith ways (read key v)) (key : String) (v : Value) :
    FailsWith ways (asList read key v) := by
  cases v with
  | list items => exact failsWith_readItems each key 0 items
  | _ => exact failsWith_error (wrongType key .list)

theorem refuses_required (each : ∀ key v, FailsWith Fault.Refuses (read key v)) (s : Mapping)
    (name key : String) : FailsWith Fault.Refuses (required s name key read) := by
  unfold required
  split
  · exact each key _
  · exact failsWith_error (refuses_missing key)

theorem failsWith_optional (each : ∀ key v, FailsWith ways (read key v)) (s : Mapping)
    (name key : String) (default : α) : FailsWith ways (optional s name key default read) := by
  unfold optional
  split
  · exact each key _
  · exact failsWith_ok default

theorem refuses_ensure (holds : Bool) (key : String) (rule : Rule) :
    FailsWith Fault.Refuses (ensure holds key rule) := by
  unfold ensure
  split
  · exact failsWith_ok ()
  · exact failsWith_error (.inr rfl)

end Access

/-! ## Sections and checks -/

section Sections

variable (env : Environment) (root : Mapping)

theorem refuses_readLog : FailsWith Fault.Refuses (readLog root) := by
  apply (refuses_section? root "log" true).bind
  intro s
  apply (refuses_required refuses_asText s _ _).bind
  intro level
  apply (failsWith_optional refuses_asFlag s _ _ _).bind
  intro toFile
  apply (failsWith_optional refuses_asWord s _ _ _).bind
  exact fun directory => failsWith_ok _

theorem refuses_readConnection : FailsWith Fault.Refuses (readConnection env root) := by
  apply (refuses_section? root "algolia" true).bind
  intro s
  apply (refuses_required refuses_asWord s _ _).bind
  intro keyVariable
  apply (failsWith_optional refuses_asText s _ _ _).bind
  intro appId
  apply (failsWith_optional refuses_asText s _ _ _).bind
  exact fun host => failsWith_ok _

theorem refuses_readSearch : FailsWith Fault.Refuses (readSearch root) := by
  have words : ∀ key v, FailsWith Fault.Refuses (asList asWord key v) :=
    failsWith_asList refuses_wrongType refuses_asWord
  apply (refuses_section? root "search" false).bind
  intro s
  apply (failsWith_optional refuses_asInteger s _ _ _).bind
  intro hitsPerPage
  apply (failsWith_optional refuses_asInteger s _ _ _).bind
  intro quietMillis
  apply (failsWith_optional refuses_asInteger s _ _ _).bind
  intro idChunkSize
  apply (failsWith_optional words s _ _ _).bind
  intro fanOut
  apply (failsWith_optional refuses_asInteger s _ _ _).bind
  intro fanOutHitsPerPage
  apply (failsWith_optional words s _ _ _).bind
  exact fun health => failsWith_ok _

theorem refuses_readSpec (logical : String) (body : Mapping) :
    FailsWith Fault.Refuses (readSpec logical body) := by
  apply (failsWith_optional refuses_asText body _ _ _).bind
  intro name
  apply (failsWith_optional refuses_asText body _ _ _).bind
  intro kind
  apply (failsWith_optional refuses_asText body _ _ _).bind
  intro idField
  apply (failsWith_optional refuses_asFlag body _ _ _).bind
  exact fun sortable => failsWith_ok _

theorem refuses_readIndex (logical : String) (entry : Value) :
    FailsWith Fault.Refuses (readIndex logical entry) := by
  unfold readIndex
  split
  · exact refuses_readSpec logical []
  · exact (refuses_asMapping _ _).bind fun body => refuses_readSpec logical body

/-- A name of an index may be an integer that is too long to be written. -/
theorem refuses_write [Platform] (key : Value) :
    FailsWith Fault.Refuses (key.write.mapError .number) := by
  intro fault failed
  obtain ⟨found, written, rfl⟩ := exists_of_mapError_eq_error failed
  obtain ⟨limit, -, -, rfl⟩ := Value.write_eq_error_iff.mp written
  exact .inr rfl

theorem refuses_readIndices [Platform] (catalog : Catalog) (entries : Mapping) :
    FailsWith Fault.Refuses (readIndices catalog entries) := by
  induction entries generalizing catalog with
  | nil => exact failsWith_ok catalog
  | cons entry rest ih =>
      exact (refuses_write _).bind fun _ => (refuses_readIndex _ _).bind fun _ => ih _

theorem refuses_readCatalog [Platform] : FailsWith Fault.Refuses (readCatalog root) :=
  (refuses_section? root "indices" true).bind fun entries => refuses_readIndices [] entries

theorem refuses_checkLog (s : LogSettings) : FailsWith Fault.Refuses (checkLog s) :=
  (refuses_ensure _ _ _).bind fun _ => refuses_ensure _ _ _

theorem refuses_checkConnection (c : Connection) : FailsWith Fault.Refuses (checkConnection c) :=
  (refuses_ensure _ _ _).bind fun _ => refuses_ensure _ _ _

theorem refuses_checkSearch (s : SearchSettings) : FailsWith Fault.Refuses (checkSearch s) := by
  iterate 6
    apply (refuses_ensure _ _ _).bind
    intro _
  exact refuses_ensure _ _ _

theorem refuses_checkIndices (catalog : Catalog) :
    FailsWith Fault.Refuses (checkIndices catalog) := by
  induction catalog with
  | nil => exact failsWith_ok ()
  | cons entry rest ih =>
      have first : FailsWith Fault.Refuses (checkIndex entry.1 entry.2) :=
        (refuses_ensure _ _ _).bind fun _ => (refuses_ensure _ _ _).bind fun _ =>
          refuses_ensure _ _ _
      exact first.bind fun _ => ih

theorem refuses_checkCatalog (catalog : Catalog) :
    FailsWith Fault.Refuses (checkCatalog catalog) :=
  (refuses_ensure _ _ _).bind fun _ => refuses_checkIndices catalog

theorem refuses_checkKnown (catalog : Catalog) (key : String) (words : List Word) :
    FailsWith Fault.Refuses (checkKnown catalog key words) := by
  induction words with
  | nil => exact failsWith_ok ()
  | cons word rest ih =>
      unfold checkKnown
      split
      · exact ih
      · exact failsWith_error (.inr rfl)

theorem refuses_checkRetry (p : RetryPolicy) : FailsWith Fault.Refuses (checkRetry p) := by
  iterate 5
    apply (refuses_ensure _ _ _).bind
    intro _
  exact refuses_ensure _ _ _

theorem refuses_readBehindRetry [Platform] (log : LogSettings) (connection : Connection)
    (retry : RetryPolicy) :
    FailsWith Fault.Refuses (readBehindRetry root log connection retry) := by
  apply (refuses_readSearch root).bind
  intro search
  apply (refuses_readCatalog root).bind
  intro catalog
  apply (refuses_checkLog log).bind
  intro _
  apply (refuses_checkConnection connection).bind
  intro _
  apply (refuses_checkSearch search).bind
  intro _
  apply (refuses_checkCatalog catalog).bind
  intro _
  apply (refuses_checkKnown catalog _ _).bind
  intro _
  apply (refuses_checkKnown catalog _ _).bind
  exact fun _ => failsWith_ok _

end Sections

/-! ## Overflows -/

/-- Whether a reader ends with the overflow of an integer. -/
def Overflows (x : Checked α) : Prop :=
  x = .error (.number (.overflow .intToFloat))

section Overflow

theorem FailsWith.not_overflows {x : Checked α} (refuses : FailsWith Fault.Refuses x) :
    ¬ Overflows x := by
  intro overflows
  rcases refuses _ overflows with absurd | absurd <;> cases absurd

theorem overflows_bind_iff {x : Checked α} {f : α → Checked β} :
    Overflows (x >>= f) ↔ Overflows x ∨ ∃ a, x = .ok a ∧ Overflows (f a) := by
  cases x with
  | error fault =>
      constructor
      · intro overflows
        left
        cases overflows
        rfl
      · rintro (overflows | ⟨a, absurd, -⟩)
        · cases overflows
          rfl
        · cases absurd
  | ok a =>
      constructor
      · exact fun overflows => .inr ⟨a, rfl, overflows⟩
      · rintro (absurd | ⟨a', same, overflows⟩)
        · cases absurd
        · cases same
          exact overflows

/-- Two readers one behind the other, the second one overflowing whatever the first one gave. -/
theorem overflows_bind_iff_or {x : Checked α} {f : α → Checked β} {p : Prop}
    (behind : ∀ a, Overflows (f a) ↔ p) : Overflows (x >>= f) ↔ Overflows x ∨ Reads x ∧ p := by
  rw [overflows_bind_iff]
  apply or_congr_right
  constructor
  · rintro ⟨a, reads, overflows⟩
    exact ⟨⟨a, reads⟩, (behind a).mp overflows⟩
  · rintro ⟨⟨a, reads⟩, holds⟩
    exact ⟨a, reads, (behind a).mpr holds⟩

theorem overflows_bind_of_refuses {x : Checked α} {f : α → Checked β} {p : Prop}
    (refuses : FailsWith Fault.Refuses x) (behind : ∀ a, Overflows (f a) ↔ p) :
    Overflows (x >>= f) ↔ Reads x ∧ p := by
  rw [overflows_bind_iff_or behind, or_iff_right refuses.not_overflows]

theorem overflows_bind_of_behind {x : Checked α} {f : α → Checked β}
    (refuses : ∀ a, FailsWith Fault.Refuses (f a)) : Overflows (x >>= f) ↔ Overflows x := by
  rw [overflows_bind_iff_or fun a => iff_false_intro (refuses a).not_overflows, and_false, or_false]

/-! ## Numbers -/

theorem firstIsWide_nil : ¬ Value.FirstIsWide [] := by
  rintro ⟨front, v, back, split, -⟩
  simp at split

theorem firstIsWide_cons_iff {v : Value} {rest : List Value} :
    Value.FirstIsWide (v :: rest) ↔ v.IsWide ∨ v.IsDouble ∧ Value.FirstIsWide rest := by
  constructor
  · rintro ⟨front, w, back, split, doubles, wide⟩
    cases front with
    | nil =>
        cases split
        exact .inl wide
    | cons first front =>
        cases split
        rw [List.forall_mem_cons] at doubles
        exact .inr ⟨doubles.1, front, w, back, rfl, doubles.2, wide⟩
  · rintro (wide | ⟨isDouble, front, w, back, rfl, doubles, wide⟩)
    · exact ⟨[], v, rest, rfl, by simp, wide⟩
    · exact ⟨v :: front, w, back, rfl, List.forall_mem_cons.mpr ⟨isDouble, doubles⟩, wide⟩

theorem asDouble_int (key : String) (n : Int) :
    n.natAbs < Decimal.limit ∧ Reads (asDouble key (.int n)) ∨
      Decimal.limit ≤ n.natAbs ∧ Overflows (asDouble key (.int n)) := by
  rcases Nat.lt_or_ge n.natAbs Decimal.limit with small | wide
  · left
    obtain ⟨x, converted⟩ := (Number.floatOfInt_eq_ok_iff n).mpr small
    refine ⟨small, x, ?_⟩
    rw [asDouble, converted]
    rfl
  · right
    refine ⟨wide, ?_⟩
    rw [Overflows, asDouble, (Number.floatOfInt_eq_error_iff n).mpr wide]
    rfl

theorem reads_asDouble_iff (key : String) (v : Value) : Reads (asDouble key v) ↔ v.IsDouble := by
  cases v with
  | float x => exact iff_of_true (reads_ok x) trivial
  | int n =>
      rcases asDouble_int key n with ⟨inRange, reads⟩ | ⟨wide, overflows⟩
      · exact iff_of_true reads inRange
      · refine iff_of_false ?_ wide.not_gt
        rw [overflows]
        exact not_reads_error _
  | _ => exact iff_of_false (not_reads_error _) not_false

theorem overflows_asDouble_iff (key : String) (v : Value) :
    Overflows (asDouble key v) ↔ v.IsWide := by
  cases v with
  | int n =>
      rcases asDouble_int key n with ⟨inRange, x, reads⟩ | ⟨wide, overflows⟩
      · refine iff_of_false ?_ inRange.not_ge
        rw [reads]
        rintro ⟨⟩
      · exact iff_of_true overflows wide
  | _ => exact iff_of_false (by rintro ⟨⟩) not_false

/-- A number that is asked for is refused, or it overflows. -/
theorem failsWith_asDouble (key : String) (v : Value) :
    FailsWith Fault.RefusesOrOverflows (asDouble key v) := by
  cases v with
  | float x => exact failsWith_ok x
  | int n =>
      rcases asDouble_int key n with ⟨-, x, reads⟩ | ⟨-, overflows⟩
      · rw [reads]
        exact failsWith_ok x
      · rw [overflows]
        exact failsWith_error (.inr rfl)
  | _ => exact failsWith_error (.inl (refuses_wrongType key .number))

theorem overflows_readItems_iff (key : String) (place : Nat) (items : List Value) :
    Overflows (readItems asDouble key place items) ↔ Value.FirstIsWide items := by
  induction items generalizing place with
  | nil => exact iff_of_false (by rintro ⟨⟩) firstIsWide_nil
  | cons v rest ih =>
      rw [firstIsWide_cons_iff, ← overflows_asDouble_iff, ← reads_asDouble_iff]
      apply overflows_bind_iff_or
      intro first
      rw [← ih (place + 1)]
      exact overflows_bind_of_behind fun others => failsWith_ok _

theorem overflows_optional_iff (s : Mapping) (name key : String) (default : Float) :
    Overflows (optional s name key default asDouble) ↔ ∃ v, s.get? name = some v ∧ v.IsWide := by
  unfold optional
  cases s.get? name with
  | none => exact iff_of_false (by rintro ⟨⟩) (by simp)
  | some v => simp [overflows_asDouble_iff]

theorem reads_optional_iff (s : Mapping) (name key : String) (default : Float) :
    Reads (optional s name key default asDouble) ↔ ∀ v, s.get? name = some v → v.IsDouble := by
  unfold optional
  cases s.get? name with
  | none => simp
  | some v => simp [reads_asDouble_iff]

/-- The numbers that are written under names, one name after the other. -/
theorem firstIsWide_filterMap_iff (s : Mapping) (name : String) (names : List String) :
    Value.FirstIsWide ((name :: names).filterMap s.get?) ↔
      (∃ v, s.get? name = some v ∧ v.IsWide) ∨
        (∀ v, s.get? name = some v → v.IsDouble) ∧
          Value.FirstIsWide (names.filterMap s.get?) := by
  cases written : s.get? name with
  | none => simp [written]
  | some v => simp [written, firstIsWide_cons_iff]

/-! ## The retry section -/

theorem overflows_readTimeouts_iff (s : Mapping) :
    Overflows (readTimeouts s) ↔ Value.FirstIsWide (writtenTimeouts s) := by
  unfold readTimeouts writtenTimeouts
  split
  · rename_i absent
    rw [absent]
    exact iff_of_false (by rintro ⟨⟩) firstIsWide_nil
  · rename_i isNull
    rw [isNull]
    exact iff_of_false (by rintro ⟨⟩) firstIsWide_nil
  · rename_i v _ written
    rw [written]
    rw [overflows_bind_of_behind fun seconds => failsWith_pure _]
    cases v with
    | list items => exact overflows_readItems_iff _ 0 items
    | _ => exact iff_of_false (by rintro ⟨⟩) firstIsWide_nil

theorem overflows_readRetry_iff (root : Mapping) :
    Overflows (readRetry root) ↔ ∃ s, section? root "retry" false = .ok s ∧ RetryOverflows s := by
  unfold readRetry
  rw [overflows_bind_iff, or_iff_right (refuses_section? root "retry" false).not_overflows]
  apply exists_congr
  intro s
  apply and_congr_right
  intro _
  rw [RetryOverflows, ← overflows_readTimeouts_iff]
  apply overflows_bind_iff_or
  intro timeouts
  apply overflows_bind_of_refuses (failsWith_optional refuses_asInteger s _ _ _)
  intro maxAttempts
  rw [writtenDelays, firstIsWide_filterMap_iff, ← overflows_optional_iff, ← reads_optional_iff]
  apply overflows_bind_iff_or
  intro delayFactor
  rw [firstIsWide_filterMap_iff, ← overflows_optional_iff, ← reads_optional_iff]
  apply overflows_bind_iff_or
  intro randomization
  rw [firstIsWide_filterMap_iff, ← overflows_optional_iff, ← reads_optional_iff]
  apply overflows_bind_iff_or
  intro maxDelay
  apply iff_of_false _ firstIsWide_nil
  apply FailsWith.not_overflows
  apply (refuses_checkRetry _).bind
  exact fun _ => .mapError fun _ => .inr rfl

end Overflow

/-! ## Reading a configuration -/

section Reading

variable [Platform] (env : Environment) (root : Mapping)

omit [Platform] in
theorem failsWith_of_refuses {x : Checked α} (refuses : FailsWith Fault.Refuses x) :
    FailsWith Fault.RefusesOrOverflows x :=
  refuses.mono fun _ => .inl

omit [Platform] in
theorem failsWith_readTimeouts (s : Mapping) :
    FailsWith Fault.RefusesOrOverflows (readTimeouts s) := by
  have wrongType (key : String) (expected : Expected) :
      (Fault.wrongType key expected).RefusesOrOverflows :=
    .inl (refuses_wrongType key expected)
  unfold readTimeouts
  split
  · exact failsWith_ok _
  · exact failsWith_ok _
  · apply (failsWith_asList wrongType failsWith_asDouble _ _).bind
    exact fun seconds => failsWith_pure _

omit [Platform] in
theorem failsWith_readRetry : FailsWith Fault.RefusesOrOverflows (readRetry root) := by
  apply (failsWith_of_refuses (refuses_section? root "retry" false)).bind
  intro s
  apply (failsWith_readTimeouts s).bind
  intro timeouts
  apply (failsWith_of_refuses (failsWith_optional refuses_asInteger s _ _ _)).bind
  intro maxAttempts
  apply (failsWith_optional failsWith_asDouble s _ _ _).bind
  intro delayFactor
  apply (failsWith_optional failsWith_asDouble s _ _ _).bind
  intro randomization
  apply (failsWith_optional failsWith_asDouble s _ _ _).bind
  intro maxDelay
  apply (failsWith_of_refuses (refuses_checkRetry _)).bind
  exact fun _ => .mapError fun _ => .inl (.inr rfl)

theorem failsWith_read : FailsWith Fault.RefusesOrOverflows (read env root) := by
  apply (failsWith_of_refuses (refuses_readLog root)).bind
  intro log
  apply (failsWith_of_refuses (refuses_readConnection env root)).bind
  intro connection
  apply (failsWith_readRetry root).bind
  intro retry
  exact failsWith_of_refuses (refuses_readBehindRetry root log connection retry)

theorem overflows_read_iff :
    Overflows (read env root) ↔
      Reads (readLog root) ∧ Reads (readConnection env root) ∧
        ∃ s, section? root "retry" false = .ok s ∧ RetryOverflows s := by
  rw [← overflows_readRetry_iff]
  apply overflows_bind_of_refuses (refuses_readLog root)
  intro log
  apply overflows_bind_of_refuses (refuses_readConnection env root)
  intro connection
  exact overflows_bind_of_behind fun retry => refuses_readBehindRetry root log connection retry

end Reading

/-- A configuration that is not accepted is refused with a fault of type or value, which the program
reports as such, except that a retry number out of the range of doubles overflows, which the program
lets through; it does so exactly if nothing that is read before is refused. -/
theorem read_refuses_or_overflows [Platform] (env : Environment) (root : Mapping) :
    (∀ fault, read env root = .error fault →
      ((fault.kind = .type ∨ fault.kind = .value) ∧
        ∀ w : Surroundings, Program.refuseConfig w (.config fault) =
          { exitCode := 1
            errors := "Error: Invalid config: " ++ fault.message ++ "\n"
            simulation := w.simulation }) ∨
      (fault = .number (.overflow .intToFloat) ∧
        ∀ w : Surroundings, Program.refuseConfig w (.config fault) =
          { exitCode := 1
            escape := some ⟨.overflow, Overflow.intToFloat.message⟩
            simulation := w.simulation })) ∧
    (read env root = .error (.number (.overflow .intToFloat)) ↔
      Reads (readLog root) ∧ Reads (readConnection env root) ∧
        ∃ s, section? root "retry" false = .ok s ∧ RetryOverflows s) := by
  refine ⟨?_, overflows_read_iff env root⟩
  intro fault failed
  rcases failsWith_read env root fault failed with refuses | rfl
  · left
    refine ⟨refuses, fun w => ?_⟩
    rw [Program.refuseConfig, LoadFault.kind]
    rcases refuses with kind | kind <;> rw [kind] <;> rfl
  · right
    exact ⟨rfl, fun w => rfl⟩

/-- A wait that is the least integer out of the range of doubles. -/
theorem read_refuses_or_overflows_on_wide_wait :
    letI := Platform.usual
    let root : Mapping := Mapping.ofNamed
      [("log", .map (Mapping.ofNamed [("level", .str "INFO")])),
        ("algolia", .map (Mapping.ofNamed [("api_key_env", .str "KEY")])),
        ("retry", .map (Mapping.ofNamed [("delay_factor", .int Decimal.limit)])),
        ("indices", .map (Mapping.ofNamed [("shops", .null)]))]
    read [] root = .error (.number (.overflow .intToFloat)) ∧
      ∀ w, (Program.refuseConfig w (.config (.number (.overflow .intToFloat)))).escape =
        some ⟨.overflow, Overflow.intToFloat.message⟩ := by
  let _ := Platform.usual
  intro root
  obtain ⟨faults, condition⟩ := read_refuses_or_overflows [] root
  have overflows : read [] root = .error (.number (.overflow .intToFloat)) := by
    apply condition.mpr
    refine ⟨⟨_, rfl⟩, ⟨_, rfl⟩, _, rfl, .inr ⟨⟨_, rfl⟩, ⟨_, rfl⟩, ?_⟩⟩
    exact ⟨[], .int Decimal.limit, [], rfl, by simp, (Int.natAbs_natCast Decimal.limit).ge⟩
  refine ⟨overflows, fun w => ?_⟩
  rcases faults _ overflows with ⟨absurd | absurd, -⟩ | ⟨-, escapes⟩
  · cases absurd
  · cases absurd
  · rw [escapes w]

end Config

end Bazaar
