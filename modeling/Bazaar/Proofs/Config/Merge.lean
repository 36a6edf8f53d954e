import Bazaar.Proofs.Value.Key

/-!
# The merge, path by path

What a mapping laid over another holds under every path of keys, in which order its levels keep
their keys, and when the merge changes nothing.  A path leads through mappings only; what lies in a
list is never merged.
-/

namespace Bazaar

/-- What lies under a path of keys. -/
def Value.at? (v : Value) : List Value → Option Value
  | [] => some v
  | key :: rest =>
    match v with
    | .map entries =>
      match Mapping.find? entries key with
      | some w => w.at? rest
      | none => none
    | _ => none

/-- A value where another one lay: two mappings are merged, else the upper value stays. -/
def Value.laidOver : Value → Option Value → Value
  | .map upper, some (.map lower) => .map (Mapping.merge lower upper)
  | upper, _ => upper

namespace Mapping

/-- What lies under a path of keys; the empty path leads to the mapping itself. -/
def at? (m : Mapping) (path : List Value) : Option Value :=
  (Value.map m).at? path

/-- A property of every mapping that a path leads to. -/
def AtLevels (property : Mapping → Prop) (m : Mapping) : Prop :=
  ∀ path level, m.at? path = some (.map level) → property level

/-- Entries under keys of which no two count as one. -/
structure IsKeyed (m : Mapping) : Prop where
  keys : ∀ entry ∈ m, entry.1.IsKey
  distinct : m.Pairwise fun entry entry' => entry.1.sameKey entry'.1 = false

/-- Whether every key counts as itself; an undefined number does not. -/
def IsSelfKeyed (m : Mapping) : Prop :=
  ∀ entry ∈ m, entry.1.sameKey entry.1 = true

/-- Whether a path leads to a mapping on both sides. -/
def Meet (base upper : Mapping) (path : List Value) : Prop :=
  ∃ low high, base.at? path = some (.map low) ∧ upper.at? path = some (.map high)

/-- Whether the lower mapping shows through along a path: whatever the upper one has on the way is a
mapping that meets one. -/
def Open (base upper : Mapping) (path : List Value) : Prop :=
  ∀ front v, front <+: path → upper.at? front = some v → Meet base upper front

/-! ## Levels -/

section Levels

variable {property : Mapping → Prop} {m level : Mapping} {key : Value}

theorem AtLevels.root (levels : AtLevels property m) : property m :=
  levels [] m rfl

theorem at?_cons {v : Value} (found : m.find? key = some v) (rest : List Value) :
    m.at? (key :: rest) = v.at? rest := by
  simp [at?, Value.at?, found]

theorem at?_cons_of_absent (absent : m.find? key = none) (rest : List Value) :
    m.at? (key :: rest) = none := by
  simp [at?, Value.at?, absent]

/-- A path to a mapping leads through a mapping. -/
theorem find?_of_at?_cons {rest : List Value} (reached : m.at? (key :: rest) = some (.map level)) :
    ∃ next : Mapping, m.find? key = some (.map next) := by
  cases found : m.find? key with
  | none => simp [at?_cons_of_absent found] at reached
  | some v =>
      rw [at?_cons found] at reached
      cases v with
      | map next => exact ⟨next, rfl⟩
      | _ => cases rest <;> simp [Value.at?] at reached

theorem AtLevels.below (levels : AtLevels property m) (found : m.find? key = some (.map level)) :
    AtLevels property level := by
  intro path deeper reached
  exact levels (key :: path) deeper ((at?_cons found path).trans reached)

theorem atLevels_of_entries (root : property m)
    (below : ∀ entry ∈ m, ∀ level, entry.2 = .map level → AtLevels property level) :
    AtLevels property m := by
  intro path level reached
  cases path with
  | nil =>
      obtain rfl : m = level := by simpa [at?, Value.at?] using reached
      exact root
  | cons key rest =>
      obtain ⟨next, found⟩ := find?_of_at?_cons reached
      obtain ⟨k, member, -⟩ := Keyed.exists_mem_of_find?_eq_some found
      rw [at?_cons found] at reached
      exact below _ member next rfl rest level reached

theorem atLevels_of_flat (root : property m)
    (flat : ∀ entry ∈ m, ∀ level, entry.2 ≠ .map level) : AtLevels property m :=
  atLevels_of_entries root fun entry member level same => (flat entry member level same).elim

end Levels

theorem isKeyed_ofNamed {pairs : List (String × Value)} (distinct : (pairs.map Prod.fst).Nodup) :
    IsKeyed (ofNamed pairs) := by
  constructor
  · intro entry member
    obtain ⟨pair, -, rfl⟩ := List.mem_map.mp member
    exact trivial
  · rw [List.Nodup, List.pairwise_map] at distinct
    apply List.pairwise_map.mpr
    exact distinct.imp fun differs => by simpa [Value.sameKey, Value.keyNumber?, Value.keyText?]

theorem isSelfKeyed_ofNamed (pairs : List (String × Value)) : IsSelfKeyed (ofNamed pairs) := by
  intro entry member
  obtain ⟨pair, -, rfl⟩ := List.mem_map.mp member
  simp [Value.sameKey, Value.keyNumber?, Value.keyText?]

/-! ## One level -/

theorem merge_nil (base : Mapping) : base.merge [] = base := by
  rw [merge]

theorem merge_cons (base : Mapping) (key v : Value) (rest : Mapping) :
    base.merge ((key, v) :: rest) =
      (base.insert key (v.laidOver (base.find? key))).merge rest := by
  cases v with
  | map upper =>
      rw [merge]
      cases base.find? key with
      | none => rfl
      | some w => cases w <;> rfl
  | _ => simp only [merge, Value.laidOver]

section Level

variable {base rest : Mapping} {key v : Value}

theorem isKeyed_cons_iff :
    IsKeyed ((key, v) :: rest) ↔
      key.IsKey ∧ (∀ entry ∈ rest, key.sameKey entry.1 = false) ∧ rest.IsKeyed := by
  constructor
  · rintro ⟨keys, distinct⟩
    rw [List.forall_mem_cons] at keys
    rw [List.pairwise_cons] at distinct
    exact ⟨keys.1, distinct.1, keys.2, distinct.2⟩
  · rintro ⟨own, apart, keys, distinct⟩
    exact ⟨List.forall_mem_cons.mpr ⟨own, keys⟩, List.pairwise_cons.mpr ⟨apart, distinct⟩⟩

theorem forall_isKey_insert (keys : ∀ entry ∈ base, entry.1.IsKey) (own : key.IsKey) (v : Value) :
    ∀ entry ∈ base.insert key v, entry.1.IsKey :=
  Keyed.forall_keys_insert keys own v

theorem find?_insert (keys : ∀ entry ∈ base, entry.1.IsKey) (own : key.IsKey) (v other : Value) :
    (base.insert key v).find? other = if key.sameKey other then some v else base.find? other :=
  Value.sameKey_coherent.find?_insert v keys own

/-- Nothing lies under a key that counts as one with another that no entry has. -/
theorem find?_eq_none_of_same (keyed : rest.IsKeyed) {other : Value}
    (apart : ∀ entry ∈ rest, key.sameKey entry.1 = false) (same : key.sameKey other = true) :
    rest.find? other = none := by
  apply Keyed.find?_eq_none_iff.mpr
  intro entry member
  rw [Bool.eq_false_iff]
  intro own
  have together := Value.sameKey_trans same (Value.sameKey_symm (keyed.keys entry member) own)
  rw [apart entry member] at together
  cases together

end Level

/-- What lies under a key after a merge. -/
theorem find?_merge {base upper : Mapping} (keys : ∀ entry ∈ base, entry.1.IsKey)
    (keyed : upper.IsKeyed) (other : Value) :
    (base.merge upper).find? other =
      match upper.find? other with
      | none => base.find? other
      | some v => some (v.laidOver (base.find? other)) := by
  induction upper generalizing base with
  | nil => rw [merge_nil]; rfl
  | cons entry rest ih =>
      obtain ⟨key, v⟩ := entry
      obtain ⟨own, apart, keyed'⟩ := isKeyed_cons_iff.mp keyed
      rw [merge_cons, ih (forall_isKey_insert keys own _) keyed', find?_insert keys own]
      have head : find? ((key, v) :: rest) other =
          if key.sameKey other then some v else find? rest other := rfl
      rw [head]
      by_cases same : key.sameKey other = true
      · have found : base.find? key = base.find? other :=
          Value.sameKey_coherent.find?_congr own same base
        rw [find?_eq_none_of_same keyed' apart same, if_pos same, if_pos same, found]
      · rw [if_neg same, if_neg same]

/-- A merge keeps the keys of the lower mapping in place; new ones follow. -/
theorem keys_merge {base upper : Mapping} (keys : ∀ entry ∈ base, entry.1.IsKey)
    (keyed : upper.IsKeyed) :
    (base.merge upper).keys =
      base.keys ++ upper.keys.filter fun key => (base.find? key).isNone := by
  induction upper generalizing base with
  | nil => simp [merge_nil, Mapping.keys]
  | cons entry rest ih =>
      obtain ⟨key, v⟩ := entry
      obtain ⟨own, apart, keyed'⟩ := isKeyed_cons_iff.mp keyed
      rw [merge_cons, ih (forall_isKey_insert keys own _) keyed']
      -- The key inserted first is none of the later ones.
      have later (w : Value) :
          ((Mapping.keys rest).filter fun other => ((base.insert key w).find? other).isNone) =
            (Mapping.keys rest).filter fun other => (base.find? other).isNone := by
        apply List.filter_congr
        intro other member
        obtain ⟨entry, member', rfl⟩ := List.mem_map.mp member
        rw [find?_insert keys own, apart entry member', if_neg Bool.false_ne_true]
      rw [later]
      cases found : base.find? key with
      | none =>
          rw [insert, Keyed.insert_of_find?_eq_none found]
          simp [Mapping.keys, found]
      | some w =>
          have placed := Keyed.map_fst_insert_of_find?_eq_some found (v.laidOver (some w))
          rw [insert, Mapping.keys, placed]
          simp [Mapping.keys, found]

/-! ## Paths -/

section Paths

variable {base upper low high : Mapping} {key v : Value} {path rest : List Value}

theorem meet_nil (base upper : Mapping) : Meet base upper [] :=
  ⟨base, upper, rfl, rfl⟩

theorem meet_cons_iff (below : base.find? key = some (.map low))
    (above : upper.find? key = some (.map high)) :
    Meet base upper (key :: rest) ↔ Meet low high rest := by
  simp only [Meet, at?_cons below, at?_cons above]
  rfl

theorem open_cons_iff (below : base.find? key = some (.map low))
    (above : upper.find? key = some (.map high)) :
    Open base upper (key :: rest) ↔ Open low high rest := by
  constructor
  · intro clear front v before present
    apply (meet_cons_iff below above).mp
    apply clear (key :: front) v ((List.prefix_cons_inj key).mpr before)
    exact (at?_cons above front).trans present
  · intro clear front v before present
    cases front with
    | nil => exact meet_nil base upper
    | cons first front =>
        obtain ⟨rfl, before'⟩ := List.cons_prefix_cons.mp before
        rw [at?_cons above] at present
        exact (meet_cons_iff below above).mpr (clear front v before' present)

/-- How a merge goes on under a key: the upper mapping has nothing there, or two mappings meet, or
the value of the upper mapping stays. -/
theorem at?_merge_cons (keys : ∀ entry ∈ base, entry.1.IsKey) (keyed : upper.IsKeyed) (key : Value) :
    (upper.find? key = none ∧
      ∀ rest, (base.merge upper).at? (key :: rest) = base.at? (key :: rest)) ∨
    (∃ low high : Mapping, base.find? key = some (.map low) ∧ upper.find? key = some (.map high) ∧
      ∀ rest, (base.merge upper).at? (key :: rest) = (low.merge high).at? rest) ∨
    ((∀ rest, ¬ Meet base upper (key :: rest)) ∧ (upper.find? key).isSome ∧
      ∀ rest, (base.merge upper).at? (key :: rest) = upper.at? (key :: rest)) := by
  have found := find?_merge keys keyed key
  cases above : upper.find? key with
  | none =>
      rw [above] at found
      refine .inl ⟨rfl, fun rest => ?_⟩
      simp [at?, Value.at?, found]
  | some v =>
      rw [above] at found
      by_cases meet : ∃ low high, base.find? key = some (.map low) ∧ v = .map high
      · obtain ⟨low, high, below, rfl⟩ := meet
        rw [below] at found
        exact .inr (.inl ⟨low, high, below, rfl, at?_cons found⟩)
      · have stays : v.laidOver (base.find? key) = v := by
          rw [Value.laidOver.eq_2]
          rintro high low rfl below
          exact meet ⟨low, high, below, rfl⟩
        have found' : (base.merge upper).find? key = some v := found.trans (congrArg some stays)
        refine .inr (.inr ⟨?_, rfl, fun rest => by rw [at?_cons found', at?_cons above]⟩)
        rintro rest ⟨low, high, reached, reached'⟩
        obtain ⟨low', below⟩ := find?_of_at?_cons reached
        obtain ⟨high', above'⟩ := find?_of_at?_cons reached'
        exact meet ⟨low', high', below, Option.some.inj (above.symm.trans above')⟩

/-- Where both sides meet, the merged mapping holds their merge. -/
theorem at?_merge_of_meet (lower : base.AtLevels IsKeyed) (keyed : upper.AtLevels IsKeyed)
    (below : base.at? path = some (.map low)) (above : upper.at? path = some (.map high)) :
    (base.merge upper).at? path = some (.map (low.merge high)) := by
  induction path generalizing base upper with
  | nil =>
      cases below
      cases above
      rfl
  | cons key rest ih =>
      rcases at?_merge_cons lower.root.keys keyed.root key with
        ⟨absent, -⟩ | ⟨low', high', below', above', follows⟩ | ⟨apart, -, -⟩
      · simp [at?_cons_of_absent absent] at above
      · rw [at?_cons below'] at below
        rw [at?_cons above'] at above
        rw [follows]
        exact ih (lower.below below') (keyed.below above') below above
      · exact (apart rest ⟨low, high, below, above⟩).elim

/-- Any other value of the upper mapping stays. -/
theorem at?_merge_of_not_meet (lower : base.AtLevels IsKeyed) (keyed : upper.AtLevels IsKeyed)
    (present : upper.at? path = some v) (apart : ¬ Meet base upper path) :
    (base.merge upper).at? path = some v := by
  induction path generalizing base upper with
  | nil => exact (apart (meet_nil base upper)).elim
  | cons key rest ih =>
      rcases at?_merge_cons lower.root.keys keyed.root key with
        ⟨absent, -⟩ | ⟨low, high, below, above, follows⟩ | ⟨-, -, stays⟩
      · simp [at?_cons_of_absent absent] at present
      · rw [meet_cons_iff below above] at apart
        rw [at?_cons above] at present
        rw [follows]
        exact ih (lower.below below) (keyed.below above) present apart
      · exact (stays rest).trans present

/-- Where the upper mapping has nothing, the lower one shows through along an open path. -/
theorem at?_merge_of_open (lower : base.AtLevels IsKeyed) (keyed : upper.AtLevels IsKeyed)
    (absent : upper.at? path = none) (clear : Open base upper path) :
    (base.merge upper).at? path = base.at? path := by
  induction path generalizing base upper with
  | nil => cases absent
  | cons key rest ih =>
      rcases at?_merge_cons lower.root.keys keyed.root key with
        ⟨-, kept⟩ | ⟨low, high, below, above, follows⟩ | ⟨apart, present, -⟩
      · exact kept rest
      · rw [open_cons_iff below above] at clear
        rw [at?_cons above] at absent
        rw [follows, at?_cons below]
        exact ih (lower.below below) (keyed.below above) absent clear
      · obtain ⟨v, found⟩ := Option.isSome_iff_exists.mp present
        have meet := clear [key] v (List.prefix_append [key] rest) (at?_cons found [])
        exact (apart [] meet).elim

/-- Along a path that is not open the merged mapping has nothing where the upper one has nothing. -/
theorem at?_merge_of_not_open (lower : base.AtLevels IsKeyed) (keyed : upper.AtLevels IsKeyed)
    (absent : upper.at? path = none) (closed : ¬ Open base upper path) :
    (base.merge upper).at? path = none := by
  induction path generalizing base upper with
  | nil => cases absent
  | cons key rest ih =>
      rcases at?_merge_cons lower.root.keys keyed.root key with
        ⟨missing, -⟩ | ⟨low, high, below, above, follows⟩ | ⟨-, -, stays⟩
      · apply (closed ?_).elim
        intro front v before present
        cases front with
        | nil => exact meet_nil base upper
        | cons first front =>
            obtain ⟨rfl, -⟩ := List.cons_prefix_cons.mp before
            simp [at?_cons_of_absent missing] at present
      · rw [open_cons_iff below above] at closed
        rw [at?_cons above] at absent
        rw [follows]
        exact ih (lower.below below) (keyed.below above) absent closed
      · exact (stays rest).trans absent

end Paths

/-! ## Merges that change nothing -/

theorem laidOver_none (v : Value) : v.laidOver none = v := by
  cases v <;> rfl

/-- Entries whose keys are all new follow behind. -/
theorem merge_eq_append {base upper : Mapping} (keys : ∀ entry ∈ base, entry.1.IsKey)
    (keyed : upper.IsKeyed) (new : ∀ entry ∈ upper, base.find? entry.1 = none) :
    base.merge upper = base ++ upper := by
  induction upper generalizing base with
  | nil => rw [merge_nil, List.append_nil]
  | cons entry rest ih =>
      obtain ⟨key, v⟩ := entry
      obtain ⟨own, apart, keyed'⟩ := isKeyed_cons_iff.mp keyed
      rw [List.forall_mem_cons] at new
      have later : ∀ entry ∈ rest, (base.insert key v).find? entry.1 = none := by
        intro entry member
        rw [find?_insert keys own, apart entry member, if_neg Bool.false_ne_true]
        exact new.2 entry member
      rw [merge_cons, new.1, laidOver_none, ih (forall_isKey_insert keys own v) keyed' later, insert,
        Keyed.insert_of_find?_eq_none new.1, List.append_assoc, List.singleton_append]

/-- Laid over nothing, a mapping is itself. -/
theorem nil_merge {upper : Mapping} (keyed : upper.IsKeyed) : Mapping.merge [] upper = upper :=
  merge_eq_append (by simp) keyed fun _ _ => rfl

/-- A mapping that holds what would be laid over it stays as it is. -/
theorem merge_of_settled {base upper : Mapping}
    (settled : ∀ entry ∈ upper, ∃ w, base.find? entry.1 = some w ∧ entry.2.laidOver (some w) = w) :
    base.merge upper = base := by
  induction upper with
  | nil => exact merge_nil base
  | cons entry rest ih =>
      obtain ⟨key, v⟩ := entry
      rw [List.forall_mem_cons] at settled
      obtain ⟨⟨w, found, own⟩, later⟩ := settled
      rw [merge_cons, found, own, insert, Keyed.insert_of_find?_eq_some found, ih later]

theorem atLevels_nil {property : Mapping → Prop} (empty : property []) :
    AtLevels property [] :=
  atLevels_of_entries empty (by simp)

/-- A second merge of the same mapping changes nothing.  The recursion goes into the mappings below
the upper one; such a mapping either met another one or was taken as a whole, as if it had met an
empty one. -/
theorem merge_merge {base upper : Mapping} (lower : base.AtLevels IsKeyed)
    (keyed : upper.AtLevels IsKeyed) (own : upper.AtLevels IsSelfKeyed) :
    (base.merge upper).merge upper = base.merge upper := by
  apply merge_of_settled
  rintro ⟨key, v⟩ member
  have above : upper.find? key = some v :=
    Keyed.find?_of_mem keyed.root.distinct (own.root _ member) member
  have found := find?_merge lower.root.keys keyed.root key
  rw [above] at found
  refine ⟨_, found, ?_⟩
  cases v with
  | map high =>
      have within := List.sizeOf_lt_of_mem member
      have absorbed {low : Mapping} (lower' : low.AtLevels IsKeyed) :
          (low.merge high).merge high = low.merge high :=
        merge_merge lower' (keyed.below above) (own.below above)
      have whole : Mapping.merge high high = high := by
        have empty := absorbed (atLevels_nil ⟨by simp, .nil⟩)
        rwa [nil_merge (keyed.below above).root] at empty
      cases below : base.find? key with
      | none => simp [Value.laidOver, whole]
      | some w =>
          cases w with
          | map low => simp [Value.laidOver, absorbed (lower.below below)]
          | _ => simp [Value.laidOver, whole]
  | _ => rfl
termination_by sizeOf upper
decreasing_by
  simp at within
  omega

/-! ## The merge as a whole -/

/-- The merge lays one mapping over another path by path, keeps the lower one's order on every level
and puts new keys behind; nothing laid over or under a mapping leaves it as it is, and a second
merge of the same mapping changes nothing. -/
theorem merge_lays_over {base upper : Mapping} (lower : base.AtLevels IsKeyed)
    (keyed : upper.AtLevels IsKeyed) :
    (∀ path low high, base.at? path = some (.map low) → upper.at? path = some (.map high) →
      (base.merge upper).at? path = some (.map (merge low high)) ∧
      keys (merge low high) =
        keys low ++ (keys high).filter fun key => (find? low key).isNone) ∧
    (∀ path v, upper.at? path = some v → ¬ Meet base upper path →
      (base.merge upper).at? path = some v) ∧
    (∀ path, upper.at? path = none → Open base upper path →
      (base.merge upper).at? path = base.at? path) ∧
    (∀ path, upper.at? path = none → ¬ Open base upper path →
      (base.merge upper).at? path = none) ∧
    base.merge [] = base ∧
    Mapping.merge [] upper = upper ∧
    (upper.AtLevels IsSelfKeyed → (base.merge upper).merge upper = base.merge upper) := by
  refine ⟨?meeting, fun path v => at?_merge_of_not_meet lower keyed,
    fun path => at?_merge_of_open lower keyed, fun path => at?_merge_of_not_open lower keyed,
    merge_nil base, nil_merge keyed.root, merge_merge lower keyed⟩
  intro path low high below above
  constructor
  · exact at?_merge_of_meet lower keyed below above
  · exact keys_merge (lower path low below).keys (keyed path high above)

/-- A section laid over a section, and a text over one. -/
theorem merge_lays_over_sections :
    let base : Mapping := ofNamed
      [("log", .map (ofNamed [("level", .str "INFO"), ("dir", .str "log")])),
        ("search", .map (ofNamed [("fan_out_indices", .list [.str "shops"])]))]
    let upper : Mapping := ofNamed
      [("log", .map (ofNamed [("to_file", .bool true), ("dir", .null)])),
        ("search", .str "none")]
    base.AtLevels IsKeyed ∧ upper.AtLevels IsKeyed ∧ upper.AtLevels IsSelfKeyed ∧
      (base.merge upper).at? [.str "log", .str "dir"] = some .null ∧
      (base.merge upper).at? [.str "log", .str "level"] = some (.str "INFO") ∧
      (base.merge upper).at? [.str "search", .str "fan_out_indices"] = none ∧
      (base.merge upper).merge upper = base.merge upper := by
  intro base upper
  have lower : base.AtLevels IsKeyed := by
    apply atLevels_of_entries (isKeyed_ofNamed (by decide))
    intro entry member level same
    rcases List.mem_pair.mp member with rfl | rfl
    · cases same
      exact atLevels_of_flat (isKeyed_ofNamed (by decide)) (by simp [ofNamed])
    · cases same
      exact atLevels_of_flat (isKeyed_ofNamed (by decide)) (by simp [ofNamed])
  have keyed : upper.AtLevels IsKeyed := by
    apply atLevels_of_entries (isKeyed_ofNamed (by decide))
    intro entry member level same
    rcases List.mem_pair.mp member with rfl | rfl
    · cases same
      exact atLevels_of_flat (isKeyed_ofNamed (by decide)) (by simp [ofNamed])
    · cases same
  have own : upper.AtLevels IsSelfKeyed := by
    apply atLevels_of_entries (isSelfKeyed_ofNamed _)
    intro entry member level same
    rcases List.mem_pair.mp member with rfl | rfl
    · cases same
      exact atLevels_of_flat (isSelfKeyed_ofNamed _) (by simp [ofNamed])
    · cases same
  obtain ⟨-, stays, shows, hides, -, -, again⟩ := merge_lays_over lower keyed
  refine ⟨lower, keyed, own, ?_, ?_, ?_, again own⟩
  · apply stays [.str "log", .str "dir"] .null rfl
    rintro ⟨low, high, below, above⟩
    cases above
  · rw [shows [.str "log", .str "level"] rfl]
    · rfl
    · intro front v before present
      have within : front = [] ∨ front = [.str "log"] ∨ front = [.str "log", .str "level"] := by
        simpa using (List.mem_inits front _).mpr before
      rcases within with rfl | rfl | rfl
      · exact meet_nil base upper
      · exact ⟨_, _, rfl, rfl⟩
      · cases present
  · apply hides [.str "search", .str "fan_out_indices"] rfl
    intro clear
    obtain ⟨low, high, below, above⟩ := clear [.str "search"] (.str "none") ⟨_, rfl⟩ rfl
    cases above

end Mapping

end Bazaar
