import Bazaar.Platform.Usual
import Bazaar.Proofs.Filter.Reader
import Bazaar.Proofs.Filter.Writing
import Bazaar.Proofs.Platform

/-!
# What a compiled filter says

Each entry of a mapping asks for at most one clause.  The compiled filter is read as exactly the
clauses that the entries ask for, in their order, whatever stands in the texts.  The one text that
is not written is that of an integer with more digits than the platform allows.
-/

namespace Bazaar.Filter

/-! ## What an entry asks for -/

/-- The bound and the field that the name of a key asks for. -/
def boundOf? : List Char → Option (Bound × List Char)
  | 'm' :: 'i' :: 'n' :: c :: rest => some (.atLeast, c.toLower :: rest)
  | 'm' :: 'a' :: 'x' :: c :: rest => some (.atMost, c.toLower :: rest)
  | _ => none

/-- The clause of a number under a key, if the key asks for a bound. -/
def askedBound (key : String) (n : Number) : Option Clause :=
  (boundOf? key.toList).map fun (relation, field) =>
    .bound (String.ofList field) relation (numberText n)

/-- The clause of texts under a key, if there are any. -/
def askedTexts (key : String) (texts : List String) : Option Clause :=
  if texts = [] then none else some (.anyOf (texts.map fun t => (key, t)))

/-- The clause that an entry asks for. -/
def asked (key : String) : Value → Option Clause
  | .int n => askedBound key (.int n)
  | .float x => if Decimal.isFinite x then askedBound key (.float x) else none
  | .bool b => some (.flag key b)
  | .str s => some (.text key s)
  | .sortKey k => some (.text key k.label)
  | .list items => askedTexts key (items.map Value.text)
  | .tuple items => askedTexts key (items.map Value.text)
  | .set items => askedTexts key (sortedTexts items)
  | .frozenSet items => askedTexts key (sortedTexts items)
  | _ => none

/-- The alternatives of a value, if it is a group of them. -/
def alternatives? : Value → Option (List Value)
  | .list items | .tuple items | .set items | .frozenSet items => some items
  | _ => none

/-- The most digits of an integer that the texts of an entry show. -/
def entryDigits (key value : Value) : Nat :=
  max key.digits (((alternatives? value).map Value.digitsOfItems).getD 0)

/-- The texts that stand in quotes for a value. -/
def textsOf : Value → List String
  | .str s => [s]
  | .sortKey k => [k.label]
  | .list items | .tuple items | .set items | .frozenSet items => items.map Value.text
  | _ => []

/-- An entry whose clause fits into the grammar: the key is a word, a number has a field and can be
a double, and every text is written and closed by its quote. -/
structure Fits [Platform] (key value : Value) : Prop where
  word : IsWord key.text
  named : value.number? ≠ none → key.text ≠ "min" ∧ key.text ≠ "max"
  inRange : ∀ n, value = .int n → boundOf? key.text.toList ≠ none →
    ∃ x, (Number.int n).toFloat = .ok x
  written : Platform.Allows (entryDigits key value)
  closes : ∀ s ∈ textsOf value, Closes s

/-! ## The name of a key -/

theorem isWordChar_ascii {c : Char} (word : isWordChar c = true) : c.toNat < 0x80 := by
  simp only [isWordChar, Bool.or_eq_true, Bool.and_eq_true, decide_eq_true_eq, beq_iff_eq] at word
  rcases word with ((digit | upper) | lower) | rfl
  · omega
  · omega
  · omega
  · decide

theorem isWordChar_toLower {c : Char} (word : isWordChar c = true) :
    isWordChar c.toLower = true := by
  have ascii : ∀ n < 0x80, isWordChar (Char.ofNat n) = true →
      isWordChar (Char.ofNat n).toLower = true := by decide
  have inTable := ascii c.toNat (isWordChar_ascii word)
  rw [Char.ofNat_toNat] at inTable
  exact inTable word

theorem lowerChar_of_word {c : Char} (word : isWordChar c = true) :
    Text.lowerChar c = [c.toLower] :=
  if_pos (isWordChar_ascii word)

theorem boundOf?_eq_none {key : List Char}
    (notLeast : Text.after? (Bound.keyStart .atLeast) key = none)
    (notMost : Text.after? (Bound.keyStart .atMost) key = none) : boundOf? key = none := by
  unfold boundOf?
  split
  · cases notLeast
  · cases notMost
  · rfl

/-- A key that is more than a bare direction asks for the bound that its name spells. -/
theorem ofKey?_eq_boundOf? {key : String} (word : IsWord key)
    (named : key ≠ "min" ∧ key ≠ "max") :
    Bound.ofKey? key.toList = boundOf? key.toList := by
  have chars (cs : List Char) (notBare : key ≠ String.ofList cs) : key.toList ≠ cs := by
    rintro rfl
    exact notBare String.ofList_toList.symm
  unfold Bound.ofKey?
  cases least : Text.after? (Bound.keyStart .atLeast) key.toList with
  | some rest =>
      rw [Text.after?_eq_some_iff] at least
      cases rest with
      | nil => exact absurd least (chars _ named.1)
      | cons c rest =>
          have lower := lowerChar_of_word (word.2 c (by simp [least]))
          rw [least]
          simp [boundOf?, Bound.keyStart, lower]
  | none =>
      cases most : Text.after? (Bound.keyStart .atMost) key.toList with
      | some rest =>
          rw [Text.after?_eq_some_iff] at most
          cases rest with
          | nil => exact absurd most (chars _ named.2)
          | cons c rest =>
              have lower := lowerChar_of_word (word.2 c (by simp [most]))
              rw [most]
              simp [boundOf?, Bound.keyStart, lower]
      | none => rw [boundOf?_eq_none least most]; rfl

theorem isWord_of_boundOf? {key : String} (word : IsWord key) {relation : Bound}
    {field : List Char} (asks : boundOf? key.toList = some (relation, field)) :
    IsWord (String.ofList field) := by
  have lowered (start : List Char) {rest : List Char} {c : Char}
      (spelled : key.toList = start ++ c :: rest) :
      IsWord (String.ofList (c.toLower :: rest)) := by
    have isWord (d : Char) (member : d ∈ c :: rest) : isWordChar d = true :=
      word.2 d (by rw [spelled]; exact List.mem_append_right start member)
    rw [IsWord, String.toList_ofList, List.forall_mem_cons]
    exact ⟨by simp, isWordChar_toLower (isWord c List.mem_cons_self),
      fun d member => isWord d (List.mem_cons_of_mem c member)⟩
  unfold boundOf? at asks
  split at asks
  · rename_i spelled
    cases asks
    exact lowered ['m', 'i', 'n'] spelled
  · rename_i spelled
    cases asks
    exact lowered ['m', 'a', 'x'] spelled
  · cases asks

/-! ## Entries -/

/-- A criterion, or none, that says what is asked for and can be told from its written form. -/
def Says (c? : Option Criterion) (clause? : Option Clause) : Prop :=
  c?.map Criterion.clause = clause? ∧ ∀ c ∈ c?, IsLegible c

theorem says_none : Says none none :=
  ⟨rfl, by simp⟩

theorem Says.one {c : Criterion} (legible : IsLegible c) : Says (some c) (some c.clause) :=
  ⟨rfl, by simpa using legible⟩

theorem ofNumber?_says {key : String} {n : Number} (finite : Bool) (word : IsWord key)
    (named : key ≠ "min" ∧ key ≠ "max")
    (isFinite : boundOf? key.toList ≠ none → n.isFinite = .ok finite) :
    ∃ c?, Criterion.ofNumber? key n = .ok c? ∧
      Says c? (if finite then askedBound key n else none) := by
  unfold Criterion.ofNumber? askedBound
  rw [ofKey?_eq_boundOf? word named]
  cases asks : boundOf? key.toList with
  | none => exact ⟨none, rfl, by cases finite <;> exact says_none⟩
  | some bound =>
      obtain ⟨relation, field⟩ := bound
      have known := isFinite (by rw [asks]; simp)
      simp only [known]
      cases finite with
      | false => exact ⟨none, rfl, says_none⟩
      | true =>
          refine ⟨_, rfl, .one (c := .bound _ relation _) ⟨?_, ?_⟩⟩
          · exact isWord_of_boundOf? word asks
          · exact isNumeral_numberText known

theorem ofTexts?_says {key : String} {texts : List String} (word : IsWord key)
    (closes : ∀ t ∈ texts, Closes t) :
    Says (Criterion.ofTexts? key texts) (askedTexts key texts) := by
  unfold Criterion.ofTexts? askedTexts
  cases texts with
  | nil => exact says_none
  | cons t texts => exact .one (c := .anyOf key (t :: texts)) ⟨word, by simp, closes⟩

theorem isFinite_int {n : Int} (inRange : ∃ x, (Number.int n).toFloat = .ok x) :
    (Number.int n).isFinite = .ok true := by
  obtain ⟨x, toFloat⟩ := inRange
  have finite : Decimal.isFinite x = true := by
    rw [Number.toFloat, Number.floatOfInt] at toFloat
    split at toFloat
    · cases toFloat
      assumption
    · cases toFloat
  rw [Number.isFinite, toFloat, Except.map, finite]

/-- To sort items by their texts and then to write them is to sort the texts. -/
theorem sortedTexts_eq (items : List Value) :
    sortedTexts items = Text.sorted (items.map Value.text) :=
  List.map_mergeSort fun _ _ _ _ => rfl

theorem mem_sortedTexts {items : List Value} {t : String} :
    t ∈ sortedTexts items ↔ t ∈ items.map Value.text := by
  rw [sortedTexts_eq]
  exact (Text.sorted_perm _).mem_iff

section Entries

variable [Platform]

theorem checkTexts_of_allows {items : List Value}
    (allows : Platform.Allows (Value.digitsOfItems items)) : Value.checkTexts items = .ok () :=
  (Platform.check_eq_ok_iff _).mpr allows

/-- The criterion of an entry whose key is short enough. -/
theorem ofPair?_of_allows {key : Value} (allows : Platform.Allows key.digits) (v : Value) :
    Criterion.ofPair? (key, v) = Criterion.ofEntry? key.text v := by
  rw [Criterion.ofPair?, Value.write_of_allows allows]
  rfl

theorem ofPair?_named (key : String) (v : Value) :
    Criterion.ofPair? (.str key, v) = Criterion.ofEntry? key v := by
  have short : (Value.str key).digits ≤ 640 := Nat.zero_le 640
  exact ofPair?_of_allows (Platform.allows_of_le short) v

/-- The filter of a text under a key is that of one identifier in a field, also where the key begins
like a bound: only numbers are bounds. -/
theorem compile_text (field id : String) :
    compile [(.str field, .str id)] = .ok (anyId field [id]) := by
  rw [compile, criteria, ofPair?_named]
  rfl

omit [Platform] in
theorem digitsOfItems_texts (texts : List String) :
    Value.digitsOfItems (texts.map Value.str) = 0 := by
  induction texts with
  | nil => rfl
  | cons t texts ih =>
      rw [List.map_cons, Value.digitsOfItems, ih]
      rfl

/-- Texts are always written. -/
theorem checkTexts_texts (texts : List String) :
    Value.checkTexts (texts.map Value.str) = .ok () := by
  apply checkTexts_of_allows
  rw [digitsOfItems_texts]
  exact Platform.allows_of_le (Nat.zero_le 640)

/-- An entry that fits gives the criterion that it asks for. -/
theorem Fits.criterion {key value : Value} (fits : Fits key value) :
    ∃ c?, Criterion.ofPair? (key, value) = .ok c? ∧ Says c? (asked key.text value) := by
  rw [ofPair?_of_allows (Platform.allows_max_iff.mp fits.written).1]
  have written := (Platform.allows_max_iff.mp fits.written).2
  cases value with
  | int n =>
      obtain ⟨c?, comes, meaning⟩ := ofNumber?_says true fits.word
        (fits.named (by simp [Value.number?])) fun asks => isFinite_int (fits.inRange n rfl asks)
      exact ⟨c?, by rw [Criterion.ofEntry?, comes]; rfl, meaning⟩
  | float x =>
      obtain ⟨c?, comes, meaning⟩ := ofNumber?_says (n := .float x) (Decimal.isFinite x) fits.word
        (fits.named (by simp [Value.number?])) fun _ => rfl
      exact ⟨c?, by rw [Criterion.ofEntry?, comes]; rfl, meaning⟩
  | bool b => exact ⟨_, rfl, .one (c := .flag key.text b) fits.word⟩
  | str s =>
      exact ⟨_, rfl, .one (c := .text key.text s) ⟨fits.word, fits.closes s List.mem_cons_self⟩⟩
  | sortKey k =>
      exact ⟨_, rfl, .one (c := .text key.text k.label)
        ⟨fits.word, fits.closes k.label List.mem_cons_self⟩⟩
  | list items =>
      refine ⟨_, ?_, ofTexts?_says fits.word fits.closes⟩
      rw [Criterion.ofEntry?, checkTexts_of_allows written]
      rfl
  | tuple items =>
      refine ⟨_, ?_, ofTexts?_says fits.word fits.closes⟩
      rw [Criterion.ofEntry?, checkTexts_of_allows written]
      rfl
  | set items =>
      refine ⟨_, ?_, ofTexts?_says fits.word fun t member =>
        fits.closes t (mem_sortedTexts.mp member)⟩
      rw [Criterion.ofEntry?, checkTexts_of_allows written]
      rfl
  | frozenSet items =>
      refine ⟨_, ?_, ofTexts?_says fits.word fun t member =>
        fits.closes t (mem_sortedTexts.mp member)⟩
      rw [Criterion.ofEntry?, checkTexts_of_allows written]
      rfl
  | _ => exact ⟨none, rfl, says_none⟩

/-! ## Mappings -/

/-- What stands in front of entries with the same criteria does not tell them apart. -/
theorem criteria_append_congr {m m' : Mapping} (same : criteria m = criteria m')
    (front : Mapping) : criteria (front ++ m) = criteria (front ++ m') := by
  induction front with
  | nil => exact same
  | cons e front ih => rw [List.cons_append, List.cons_append, criteria, criteria, ih]

theorem criteria_says {m : Mapping} (fits : ∀ e ∈ m, Fits e.1 e.2) :
    ∃ cs, criteria m = .ok cs ∧
      cs.map Criterion.clause = m.filterMap (fun e => asked e.1.text e.2) ∧
      ∀ c ∈ cs, IsLegible c := by
  induction m with
  | nil => exact ⟨[], rfl, rfl, by simp⟩
  | cons e m ih =>
      obtain ⟨key, value⟩ := e
      obtain ⟨c?, first, meaning, legible⟩ := (fits (key, value) List.mem_cons_self).criterion
      obtain ⟨cs, others, saysOthers, legibleOthers⟩ :=
        ih fun e member => fits e (List.mem_cons_of_mem _ member)
      refine ⟨c?.toList ++ cs, ?_, ?_, ?_⟩
      · rw [criteria, first, others]
        rfl
      · rw [List.map_append, saysOthers, List.filterMap_cons, ← meaning]
        cases c? <;> rfl
      · intro c member
        rcases List.mem_append.mp member with own | other
        · exact legible c (by simpa using own)
        · exact legibleOthers c other

/-- The compiled filter of a mapping is read as exactly the clauses that its entries ask for, in
order; the reader accepts just the grammar, in which no text says two things. -/
theorem parse_compile :
    (∀ s cs, parse s = some cs ↔ Written cs s) ∧
      (∀ items, (sortedTexts items).Pairwise (fun s t => Text.isBefore t s = false) ∧
        (sortedTexts items).Perm (items.map Value.text)) ∧
      ∀ m : Mapping, (∀ e ∈ m, Fits e.1 e.2) →
        ∃ s, compile m = .ok s ∧
          parse s = some (m.filterMap fun e => asked e.1.text e.2) := by
  refine ⟨fun s cs => parse_eq_some_iff, ?_, ?_⟩
  · intro items
    rw [sortedTexts_eq]
    exact ⟨Text.sorted_pairwise _, Text.sorted_perm _⟩
  intro m fits
  obtain ⟨cs, compiled, meaning, legible⟩ := criteria_says fits
  refine ⟨render cs, ?_, ?_⟩
  · rw [compile, compiled]
    rfl
  · rw [← meaning, parse_eq_some_iff]
    exact written_render legible

end Entries

theorem parse_compile_of_marks_in_texts :
    letI := Platform.usual
    let m : Mapping := [(.str "minPrice", .int 5), (.str "max_rating", .float 4.5),
      (.str "open", .bool true), (.str "skip", .null), (.str "n", .int 3),
      (.str "name", .str "a\" AND (b:\"c"), (.str "tags", .tuple [.str " OR ", .int 10])]
    (∀ e ∈ m, Fits e.1 e.2) ∧ ∃ s, compile m = .ok s ∧
      parse s = some [.bound "price" .atLeast "5", .bound "_rating" .atMost "4.5",
        .flag "open" true, .text "name" "a\" AND (b:\"c",
        .anyOf [("tags", " OR "), ("tags", "10")]] := by
  let _ := Platform.usual
  intro m
  have fits : ∀ e ∈ m, Fits e.1 e.2 := by
    intro e member
    simp only [m, List.mem_cons, List.not_mem_nil, or_false] at member
    rcases member with rfl | rfl | rfl | rfl | rfl | rfl | rfl
    all_goals
      refine ⟨?_, fun _ => by decide, fun n same _ => by cases same <;> exact ⟨_, rfl⟩,
        Platform.allows_of_le (by decide), ?_⟩
      · simp [IsWord, isWordChar, Value.text]
      · unfold Closes
        decide
  refine ⟨fits, ?_⟩
  obtain ⟨s, compiled, parsed⟩ := parse_compile.2.2 m fits
  refine ⟨s, compiled, ?_⟩
  rw [parsed]
  decide +kernel

end Bazaar.Filter
