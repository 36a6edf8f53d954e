import Bazaar.Proofs.Config.Accepted
import Bazaar.Proofs.Config.Faults
import Bazaar.Proofs.Decimal.Order

/-!
# Retry settings that are refused

A retry section is refused with the key that is to blame, and what is accepted keeps the order that
the checks ask for.  The undefined value passes every check but that of the randomization, since it
is neither below nor above anything; it is the only thing that does.
-/

namespace Bazaar

open RetryPolicy (zero)

namespace Config

/-! ## Keys that are to blame -/

/-- The integers that stand for doubles in a retry section are in the range of doubles. -/
def RetryInRange (root : Mapping) : Prop :=
  ∀ s, section? root "retry" false = .ok s →
    ∀ v ∈ writtenTimeouts s ++ writtenDelays s, ¬v.IsWide

/-- Whether a value is a number that becomes this double. -/
def Becomes (v : Value) (x : Float) : Prop :=
  ∃ a, v.number? = some a ∧ a.toFloat = .ok x

/-- The double that is written under a name of a section, or else stands there by default. -/
def Stands (s : Mapping) (name : String) (default x : Float) : Prop :=
  s.get? name = none ∧ x = default ∨ ∃ v, s.get? name = some v ∧ Becomes v x

/-- The entries of a retry section that are to blame, by their keys. -/
inductive Blames (s : Mapping) : String → Prop where
  | noList {v : Value} : s.get? "timeout_progression" = some v → v ≠ .null →
      (∀ items, v ≠ .list items) → Blames s "retry.timeout_progression"
  | noTime {items : List Value} {i : Nat} {v : Value} :
      s.get? "timeout_progression" = some (.list items) → items[i]? = some v → v.number? = none →
      Blames s ("retry.timeout_progression" ++ "[" ++ toString i ++ "]")
  | noInteger {v : Value} : s.get? "max_attempts" = some v → (∀ n, v ≠ .int n) →
      Blames s "retry.max_attempts"
  | noNumber {name : String} {v : Value} :
      name ∈ ["delay_factor", "randomization_factor", "max_delay"] → s.get? name = some v →
      v.number? = none → Blames s ("retry." ++ name)
  | noAttempts {n : Int} : s.get? "max_attempts" = some (.int n) → n ≤ 0 →
      Blames s "retry.max_attempts"
  | negativeDelay {x : Float} : Stands s "delay_factor" 0.5 x →
      (Number.float x).below zero = true → Blames s "retry.delay_factor"
  | wideSpread {x : Float} : Stands s "randomization_factor" 0.1 x →
      ¬(zero.atMost (.float x) = true ∧ (Number.float x).atMost (.int 1) = true) →
      Blames s "retry.randomization_factor"
  | lowCap {x y : Float} : Stands s "delay_factor" 0.5 x → Stands s "max_delay" 2.0 y →
      (Number.float y).below (.float x) = true → Blames s "retry.max_delay"
  | noTimes : s.get? "timeout_progression" = some (.list []) →
      Blames s "retry.timeout_progression"
  | shortTime {items : List Value} {v : Value} {x : Float} :
      s.get? "timeout_progression" = some (.list items) → v ∈ items → Becomes v x →
      (Number.float x).atMost zero = true → Blames s "retry.timeout_progression"

/-- What is to blame for a refusal: the section itself, or an entry of it. -/
inductive BlamesRetry (root : Mapping) : String → Prop where
  | noSection {v : Value} : root.get? "retry" = some v → v ≠ .null →
      (∀ entries, v ≠ .map entries) → BlamesRetry root "retry"
  | entry {s : Mapping} {key : String} : section? root "retry" false = .ok s → Blames s key →
      BlamesRetry root key

/-- A cap below zero beside an undefined delay, which the cap is not below. -/
def CapSlips (s : Mapping) : Prop :=
  ∃ x y, Stands s "delay_factor" 0.5 x ∧ Stands s "max_delay" 2.0 y ∧
    ¬(Number.float x).IsDefined ∧ (Number.float y).below zero = true

/-- Whether the wording of a fault begins with a key. -/
def Fault.Names (fault : Fault) (key : String) : Prop :=
  ∃ rest, fault.message = key ++ " " ++ rest

theorem names_wrongType (key : String) (expected : Expected) :
    (Fault.wrongType key expected).Names key := by
  refine ⟨"must be " ++ expected.text, ?_⟩
  calc key ++ " must be " ++ expected.text
      = key ++ (" " ++ "must be ") ++ expected.text := rfl
    _ = key ++ " " ++ ("must be " ++ expected.text) := by
        rw [← String.append_assoc, String.append_assoc]

theorem names_broken (key : String) (rule : Rule) : (Fault.broken key rule).Names key :=
  ⟨rule.text, rfl⟩

/-- Whether a fault names an entry that is to blame. -/
def NamesEntry (s : Mapping) (fault : Fault) : Prop :=
  ∃ key, Blames s key ∧ fault.Names key

/-! ## Readers -/

section Readers

variable {s : Mapping} {name key : String} {v : Value} {x : Float}

theorem becomes_of_asDouble (accepted : asDouble key v = .ok x) : Becomes v x := by
  cases v with
  | float y =>
      cases accepted
      exact ⟨.float x, rfl, rfl⟩
  | int n => exact ⟨.int n, rfl, eq_ok_of_mapError_eq_ok accepted⟩
  | _ => cases accepted

theorem stands_of_optional {default : Float}
    (accepted : optional s name key default asDouble = .ok x) : Stands s name default x := by
  unfold optional at accepted
  split at accepted
  · rename_i v written
    exact .inr ⟨v, written, becomes_of_asDouble accepted⟩
  · rename_i absent
    cases accepted
    exact .inl ⟨absent, rfl⟩

theorem becomes_of_readItems {place : Nat} {items : List Value} {xs : List Float}
    (accepted : readItems asDouble key place items = .ok xs) :
    ∀ x ∈ xs, ∃ v ∈ items, Becomes v x := by
  induction items generalizing place xs with
  | nil =>
      cases accepted
      exact List.forall_mem_nil _
  | cons v rest ih =>
      obtain ⟨first, firstRead, accepted⟩ := exists_of_bind_eq_ok accepted
      obtain ⟨others, othersRead, accepted⟩ := exists_of_bind_eq_ok accepted
      cases accepted
      rw [List.forall_mem_cons]
      refine ⟨⟨v, List.mem_cons_self, becomes_of_asDouble firstRead⟩, fun x member => ?_⟩
      obtain ⟨w, isItem, becomes⟩ := ih othersRead x member
      exact ⟨w, List.mem_cons_of_mem v isItem, becomes⟩

/-- A number that is asked for and in range is refused only for its type. -/
theorem asDouble_failsWith (inRange : ¬v.IsWide) :
    FailsWith (fun fault => v.number? = none ∧ fault = .wrongType key .number)
      (asDouble key v) := by
  cases v with
  | float x => exact failsWith_ok x
  | int n =>
      rcases asDouble_int key n with ⟨-, x, reads⟩ | ⟨wide, -⟩
      · rw [reads]
        exact failsWith_ok x
      · exact absurd wide inRange
  | _ => exact failsWith_error ⟨rfl, rfl⟩

theorem readItems_failsWith {items : List Value} (inRange : ∀ v ∈ items, ¬v.IsWide) (place : Nat) :
    FailsWith
      (fun fault => ∃ i v, items[i]? = some v ∧ v.number? = none ∧
        fault = .wrongType (key ++ "[" ++ toString (place + i) ++ "]") .number)
      (readItems asDouble key place items) := by
  induction items generalizing place with
  | nil => exact failsWith_ok []
  | cons v rest ih =>
      rw [List.forall_mem_cons] at inRange
      apply FailsWith.bind
      · refine (asDouble_failsWith inRange.1).mono ?_
        rintro fault ⟨noNumber, rfl⟩
        exact ⟨0, v, rfl, noNumber, rfl⟩
      · intro first
        apply FailsWith.bind
        · refine (ih inRange.2 (place + 1)).mono ?_
          rintro fault ⟨i, w, isItem, noNumber, rfl⟩
          exact ⟨i + 1, w, isItem, noNumber, by rw [Nat.add_right_comm, Nat.add_assoc]⟩
        · exact fun others => failsWith_ok _

theorem optional_failsWith {default : Float} (inRange : ∀ v, s.get? name = some v → ¬v.IsWide) :
    FailsWith (fun fault => ∃ v, s.get? name = some v ∧ v.number? = none ∧
      fault = .wrongType key .number) (optional s name key default asDouble) := by
  unfold optional
  split
  · rename_i v written
    refine (asDouble_failsWith (inRange v written)).mono ?_
    rintro fault ⟨noNumber, rfl⟩
    exact ⟨v, written, noNumber, rfl⟩
  · exact failsWith_ok default

theorem ensure_failsWith {holds : Bool} {rule : Rule} (broken : holds = false → Blames s key) :
    FailsWith (NamesEntry s) (ensure holds key rule) := by
  cases holds with
  | true => exact failsWith_ok ()
  | false => exact failsWith_error ⟨key, broken rfl, names_broken key rule⟩

end Readers

/-! ## The chain of readers and checks -/

section Chain

variable {s : Mapping}

theorem section?_failsWith (root : Mapping) :
    FailsWith (fun fault => ∃ key, BlamesRetry root key ∧ fault.Names key)
      (section? root "retry" false) := by
  unfold section?
  split
  · exact failsWith_ok []
  · exact failsWith_ok []
  · exact failsWith_ok _
  · rename_i v noNull noMap written
    exact failsWith_error ⟨"retry", .noSection written noNull noMap, names_wrongType _ _⟩

theorem readTimeouts_failsWith (inRange : ∀ v ∈ writtenTimeouts s, ¬v.IsWide) :
    FailsWith (NamesEntry s) (readTimeouts s) := by
  unfold readTimeouts
  split
  · exact failsWith_ok _
  · exact failsWith_ok _
  · rename_i v noNull written
    refine FailsWith.bind ?_ fun seconds => failsWith_pure _
    unfold asList
    split
    · rename_i items
      have inRange : ∀ v ∈ items, ¬v.IsWide := by
        simpa only [writtenTimeouts, written] using inRange
      refine (readItems_failsWith inRange 0).mono ?_
      rintro fault ⟨i, v, isItem, noNumber, rfl⟩
      rw [Nat.zero_add]
      exact ⟨_, .noTime written isItem noNumber, names_wrongType _ _⟩
    · rename_i noList
      exact failsWith_error ⟨_, .noList written noNull noList, names_wrongType _ _⟩

theorem maxAttempts_failsWith :
    FailsWith (NamesEntry s)
      (optional s "max_attempts" "retry.max_attempts" 3 asInteger) := by
  unfold optional
  split
  · rename_i v written
    unfold asInteger
    split
    · exact failsWith_ok _
    · rename_i noInteger
      exact failsWith_error ⟨_, .noInteger written noInteger, names_wrongType _ _⟩
  · exact failsWith_ok 3

theorem double_failsWith {name : String} {default : Float}
    (isName : name ∈ ["delay_factor", "randomization_factor", "max_delay"])
    (inRange : ∀ v ∈ writtenDelays s, ¬v.IsWide) :
    FailsWith (NamesEntry s)
      (optional s name ("retry." ++ name) default asDouble) := by
  refine (optional_failsWith fun v written => inRange v ?_).mono ?_
  · exact List.mem_filterMap.mpr ⟨name, isName, written⟩
  · rintro fault ⟨v, written, noNumber, rfl⟩
    exact ⟨_, .noNumber isName written noNumber, names_wrongType _ _⟩

/-- The time limits that are read are the usual ones, or doubles that are written in a list. -/
theorem readTimeouts_cases {times : List Number} (accepted : readTimeouts s = .ok times) :
    times = ({} : RetryPolicy).timeouts ∨
      ∃ items xs, s.get? "timeout_progression" = some (.list items) ∧ times = xs.map .float ∧
        readItems asDouble "retry.timeout_progression" 0 items = .ok xs := by
  unfold readTimeouts at accepted
  split at accepted
  · cases accepted
    exact .inl rfl
  · cases accepted
    exact .inl rfl
  · rename_i v _ written
    obtain ⟨xs, itemsRead, accepted⟩ := exists_of_bind_eq_ok accepted
    cases accepted
    unfold asList at itemsRead
    split at itemsRead
    · rename_i items _
      exact .inr ⟨items, xs, written, rfl, itemsRead⟩
    · cases itemsRead

theorem readItems_eq_nil {key : String} {place : Nat} {items : List Value}
    (accepted : readItems asDouble key place items = .ok []) : items = [] := by
  cases items with
  | nil => rfl
  | cons v rest =>
      obtain ⟨first, -, accepted⟩ := exists_of_bind_eq_ok accepted
      obtain ⟨others, -, accepted⟩ := exists_of_bind_eq_ok accepted
      cases accepted

theorem blames_of_isEmpty {times : List Number} (accepted : readTimeouts s = .ok times)
    (empty : times.isEmpty = true) : Blames s "retry.timeout_progression" := by
  rcases readTimeouts_cases accepted with rfl | ⟨items, xs, written, rfl, itemsRead⟩
  · cases empty
  · rw [List.isEmpty_iff, List.map_eq_nil_iff] at empty
    subst empty
    rw [readItems_eq_nil itemsRead] at written
    exact .noTimes written

theorem blames_of_atMost_zero {times : List Number} (accepted : readTimeouts s = .ok times)
    {t : Number} (member : t ∈ times) (atMost : t.atMost zero = true) :
    Blames s "retry.timeout_progression" := by
  rcases readTimeouts_cases accepted with rfl | ⟨items, xs, written, rfl, itemsRead⟩
  · obtain ⟨-, -, positive, -⟩ := RetryPolicy.fault?_eq_none_iff.mp RetryPolicy.fault?_default
    rw [positive t member] at atMost
    cases atMost
  · obtain ⟨x, isRead, rfl⟩ := List.mem_map.mp member
    obtain ⟨v, isItem, becomes⟩ := becomes_of_readItems itemsRead x isRead
    exact .shortTime written isItem becomes atMost

theorem blames_of_not_pos {n : Int}
    (accepted : optional s "max_attempts" "retry.max_attempts" 3 asInteger = .ok n)
    (notPositive : n ≤ 0) : Blames s "retry.max_attempts" := by
  unfold optional at accepted
  split at accepted
  · rename_i v written
    unfold asInteger at accepted
    split at accepted
    · cases accepted
      exact .noAttempts written notPositive
    · cases accepted
  · cases accepted
    exact absurd notPositive (by decide)

theorem checkRetry_failsWith {times : List Number} {n : Int} {x r y : Float}
    (timesRead : readTimeouts s = .ok times)
    (attemptsRead : optional s "max_attempts" "retry.max_attempts" 3 asInteger = .ok n)
    (delay : Stands s "delay_factor" 0.5 x) (spread : Stands s "randomization_factor" 0.1 r)
    (cap : Stands s "max_delay" 2.0 y) :
    FailsWith (NamesEntry s)
      (checkRetry ⟨n, .float x, .float r, .float y, times⟩) := by
  refine (ensure_failsWith fun broken => ?_).bind fun _ => ?_
  · exact blames_of_not_pos attemptsRead (Int.not_lt.mp (of_decide_eq_false broken))
  refine (ensure_failsWith fun broken => ?_).bind fun _ => ?_
  · exact .negativeDelay delay (by simpa using broken)
  refine (ensure_failsWith fun broken => ?_).bind fun _ => ?_
  · exact .wideSpread spread fun within => by simp [within] at broken
  refine (ensure_failsWith fun broken => ?_).bind fun _ => ?_
  · exact .lowCap delay cap (by simpa using broken)
  refine (ensure_failsWith fun broken => ?_).bind fun _ => ?_
  · exact blames_of_isEmpty timesRead (by simpa using broken)
  refine ensure_failsWith fun broken => ?_
  obtain ⟨t, member, atMost⟩ := List.any_eq_true.mp (Bool.eq_true_of_not_eq_false' broken)
  exact blames_of_atMost_zero timesRead member atMost

end Chain

/-! ## What the checks leave open -/

section Passed

variable {p : RetryPolicy}

/-- What the checks ask of retry settings. -/
structure Passes (p : RetryPolicy) : Prop where
  attempts : 0 < p.maxAttempts
  delay : p.delayFactor.below zero = false
  spread : zero.atMost p.randomizationFactor = true ∧ p.randomizationFactor.atMost (.int 1) = true
  cap : p.maxDelay.below p.delayFactor = false
  someTime : p.timeouts ≠ []
  times : ∀ t ∈ p.timeouts, t.atMost zero = false

theorem passes_of_checkRetry (passed : checkRetry p = .ok ()) : Passes p := by
  obtain ⟨attempts, passed⟩ := of_ensure_bind passed
  obtain ⟨delay, passed⟩ := of_ensure_bind passed
  obtain ⟨spread, passed⟩ := of_ensure_bind passed
  obtain ⟨cap, passed⟩ := of_ensure_bind passed
  obtain ⟨someTime, passed⟩ := of_ensure_bind passed
  have times := of_ensure passed
  exact {
    attempts := of_decide_eq_true attempts
    delay := by simpa using delay
    spread := by simpa using spread
    cap := by simpa using cap
    someTime := by simpa using someTime
    times := by simpa using times }

/-- Only a cap below zero is left to be refused behind the checks. -/
theorem Passes.fault?_eq (passes : Passes p) :
    p.fault? = if p.maxDelay.below zero then some .delays else none := by
  have attempts : ¬p.maxAttempts ≤ 0 := not_le.mpr passes.attempts
  have someTime : p.timeouts.isEmpty = false := by simpa using passes.someTime
  have times : p.timeouts.any (·.atMost zero) = false := by simpa using passes.times
  simp only [RetryPolicy.fault?, attempts, someTime, times, passes.delay, passes.spread.1,
    passes.spread.2, Bool.and_self, Bool.not_true, Bool.false_or, Bool.false_eq_true, if_false]

/-- A cap below zero passes the checks only beside an undefined delay. -/
theorem Passes.not_isDefined (passes : Passes p) (negative : p.maxDelay.below zero = true) :
    ¬p.delayFactor.IsDefined := by
  intro defined
  have least := (Number.below_eq_false_iff defined (Number.isDefined_int 0)).mp passes.delay
  have below := Number.below_of_below_of_atMost negative least
  rw [passes.cap] at below
  cases below

/-- The delay and its cap are in order exactly if both are defined. -/
theorem Passes.inOrder_iff (passes : Passes p) :
    zero.atMost p.delayFactor = true ∧ p.delayFactor.atMost p.maxDelay = true ↔
      p.delayFactor.IsDefined ∧ p.maxDelay.IsDefined := by
  constructor
  · rintro ⟨-, inOrder⟩
    exact Number.isDefined_of_atMost inOrder
  · rintro ⟨delay, cap⟩
    exact ⟨(Number.below_eq_false_iff delay (Number.isDefined_int 0)).mp passes.delay,
      (Number.below_eq_false_iff cap delay).mp passes.cap⟩

/-- A time limit is above zero exactly if it is defined. -/
theorem Passes.pos_iff (passes : Passes p) {t : Number} (member : t ∈ p.timeouts) :
    zero.below t = true ↔ t.IsDefined := by
  constructor
  · exact fun positive => (Number.isDefined_of_below positive).2
  · intro defined
    exact (Number.atMost_eq_false_iff defined (Number.isDefined_int 0)).mp (passes.times t member)

end Passed

variable {root : Mapping}

theorem passes_of_readRetry {p : RetryPolicy} (accepted : readRetry root = .ok p) : Passes p := by
  obtain ⟨_, -, accepted⟩ := exists_of_bind_eq_ok accepted
  obtain ⟨_, -, accepted⟩ := exists_of_bind_eq_ok accepted
  obtain ⟨_, -, accepted⟩ := exists_of_bind_eq_ok accepted
  obtain ⟨_, -, accepted⟩ := exists_of_bind_eq_ok accepted
  obtain ⟨_, -, accepted⟩ := exists_of_bind_eq_ok accepted
  obtain ⟨_, -, accepted⟩ := exists_of_bind_eq_ok accepted
  obtain ⟨_, checks, accepted⟩ := exists_of_bind_eq_ok accepted
  obtain ⟨rfl, -⟩ := fault?_of_checked accepted
  exact passes_of_checkRetry checks

/-- Behind the checks, settings are refused for a cap that slipped through, and for nothing else. -/
theorem checked_failsWith {p : RetryPolicy} (passes : Passes p) :
    FailsWith (fun fault => fault = .retry .delays ∧ p.maxDelay.below zero = true)
      (p.checked.mapError .retry) := by
  intro fault failed
  obtain ⟨reason, refused, rfl⟩ := exists_of_mapError_eq_error failed
  unfold RetryPolicy.checked at refused
  rw [passes.fault?_eq] at refused
  split at refused
  · rename_i isFault
    cases refused
    split at isFault
    · rename_i negative
      cases isFault
      exact ⟨rfl, negative⟩
    · cases isFault
  · cases refused

/-- Whether a fault of reading a configuration names what is to blame in its retry section. -/
def NamesRetry (root : Mapping) (fault : Fault) : Prop :=
  ∃ key, BlamesRetry root key ∧ fault.Names key

/-- Whether a fault is the refusal of a cap that slipped through the checks of the section. -/
def Slips (root : Mapping) (fault : Fault) : Prop :=
  fault = .retry .delays ∧ ∃ s, section? root "retry" false = .ok s ∧ CapSlips s

theorem readRetry_failsWith (inRange : RetryInRange root) :
    FailsWith (fun fault => NamesRetry root fault ∨ Slips root fault) (readRetry root) := by
  refine FailsWith.bind_of_ok ((section?_failsWith root).mono fun _ => .inl) fun s isSection => ?_
  have named {fault : Fault} : NamesEntry s fault → NamesRetry root fault ∨ Slips root fault := by
    rintro ⟨key, blames, names⟩
    exact .inl ⟨key, .entry isSection blames, names⟩
  have times : ∀ v ∈ writtenTimeouts s, ¬v.IsWide :=
    fun v member => inRange s isSection v (List.mem_append_left _ member)
  have delays : ∀ v ∈ writtenDelays s, ¬v.IsWide :=
    fun v member => inRange s isSection v (List.mem_append_right _ member)
  refine FailsWith.bind_of_ok ((readTimeouts_failsWith times).mono fun _ => named)
    fun timeouts timesRead => ?_
  refine FailsWith.bind_of_ok (maxAttempts_failsWith.mono fun _ => named)
    fun maxAttempts attemptsRead => ?_
  refine FailsWith.bind_of_ok ((double_failsWith (by decide) delays).mono fun _ => named)
    fun delay delayRead => ?_
  refine FailsWith.bind_of_ok ((double_failsWith (by decide) delays).mono fun _ => named)
    fun spread spreadRead => ?_
  refine FailsWith.bind_of_ok ((double_failsWith (by decide) delays).mono fun _ => named)
    fun cap capRead => ?_
  have standing := stands_of_optional delayRead
  have standing' := stands_of_optional capRead
  refine FailsWith.bind_of_ok ((checkRetry_failsWith timesRead attemptsRead standing
    (stands_of_optional spreadRead) standing').mono fun _ => named) fun _ passed => ?_
  have passes := passes_of_checkRetry passed
  refine (checked_failsWith passes).mono ?_
  rintro fault ⟨rfl, negative⟩
  exact .inr ⟨rfl, s, isSection, delay, cap, standing, standing', passes.not_isDefined negative,
    negative⟩

/-- A retry section whose numbers are in range is refused with what is to blame for it, but for a
negative cap beside an undefined delay; and what is accepted keeps the order that the checks ask
for, but for the undefined value, which is neither below nor above anything. -/
theorem readRetry_blames_or_orders (root : Mapping) (inRange : RetryInRange root) :
    (∀ fault, readRetry root = .error fault → NamesRetry root fault ∨ Slips root fault) ∧
    (∀ p, readRetry root = .ok p →
      0 < p.maxAttempts ∧
      (zero.atMost p.delayFactor = true ∧ p.delayFactor.atMost p.maxDelay = true ↔
        p.delayFactor.IsDefined ∧ p.maxDelay.IsDefined) ∧
      (zero.atMost p.randomizationFactor = true ∧
        p.randomizationFactor.atMost (.int 1) = true) ∧
      ∀ t ∈ p.timeouts, zero.below t = true ↔ t.IsDefined) ∧
    ∀ p, checkRetry p = .ok () →
      p.fault? = (if p.maxDelay.below zero then some .delays else none) ∧
        (p.maxDelay.below zero = true → ¬p.delayFactor.IsDefined) := by
  refine ⟨readRetry_failsWith inRange, fun p accepted => ?_, fun p passed => ?_⟩
  · have passes := passes_of_readRetry accepted
    exact ⟨passes.attempts, passes.inOrder_iff, passes.spread, fun t => passes.pos_iff⟩
  · have passes := passes_of_checkRetry passed
    exact ⟨passes.fault?_eq, passes.not_isDefined⟩

/-- An undefined delay is accepted, and is not between zero and its cap. -/
theorem readRetry_blames_or_orders_on_undefined_delay :
    let root : Mapping := Mapping.ofNamed
      [("retry", .map (Mapping.ofNamed [("delay_factor", .float Decimal.undefined)]))]
    RetryInRange root ∧ ∃ p, readRetry root = .ok p ∧ p.maxDelay.IsDefined ∧
      ¬(zero.atMost p.delayFactor = true ∧ p.delayFactor.atMost p.maxDelay = true) := by
  intro root
  have inRange : RetryInRange root := by
    intro s isSection v member
    cases isSection
    cases List.mem_singleton.mp member
    exact not_false
  obtain ⟨-, accepted, -⟩ := readRetry_blames_or_orders root inRange
  have reads : readRetry root = .ok { delayFactor := .float Decimal.undefined } := rfl
  obtain ⟨-, inOrder, -⟩ := accepted _ reads
  have undefined : ¬(Number.float Decimal.undefined).IsDefined :=
    Number.not_isDefined_iff.mpr ⟨_, rfl, by decide +kernel⟩
  exact ⟨inRange, _, reads, ⟨_, rfl⟩, fun ordered => undefined (inOrder.mp ordered).1⟩

end Config

end Bazaar
