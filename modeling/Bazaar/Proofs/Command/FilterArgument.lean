import Bazaar.Command.FilterArgument
import Bazaar.Platform.Usual
import Bazaar.Proofs.Decimal.Range
import Bazaar.Proofs.Decimal.Spelling
import Bazaar.Proofs.Filter.Compile
import Bazaar.Proofs.Outcome
import Mathlib.Data.List.Forall2

/-!
# What filters on the command line ask for

Arguments are refused for four reasons only, and for a fifth where the platform limits the digits of
an integer.  All others are honoured: each is written into the filter as one clause, in the order of
the arguments, unless its bound is not finite or its list has no parts.  The command line and the
filter find bounds in their own ways, which agree on every key.
-/

namespace Bazaar.FilterArgument

/-! ## The meaning of arguments -/

/-- An argument with its key and the text of its value.  The key stands in front of the first equals
sign, with or without blanks around it. -/
def Splits (item key text : String) : Prop :=
  ∃ before, item.toList = before ++ '=' :: text.toList ∧ '=' ∉ before ∧
    key.toList = Text.trimChars before ∧ key ≠ ""

/-- A key that asks for a bound on a field: `min` or `max`, and the field with a capital letter or
an underscore in front. -/
structure AsksBound (key : String) (relation : Bound) (field : String) : Prop where
  spelled : ∃ c rest, key.toList = relation.keyStart ++ c :: rest ∧
    (c = '_' ∨ ('A' ≤ c ∧ c ≤ 'Z')) ∧ field.toList = c.toLower :: rest

/-- A key that asks for a bound on some field. -/
def IsBound (key : String) : Prop :=
  ∃ relation field, AsksBound key relation field

/-- The reasons to refuse arguments. -/
inductive Refused (items : List String) : Prop where
  | noSign {item : String} (given : item ∈ items) (absent : '=' ∉ item.toList)
  | blankKey {item : String} {before after : List Char} (given : item ∈ items)
      (spelled : item.toList = before ++ '=' :: after)
      (blank : ∀ c ∈ before, Text.isBlank c = true)
  | repeated {first second key text text' : String} (given : [first, second].Sublist items)
      (splits : Splits first key text) (again : Splits second key text')
  | notNumber {item key text : String} (given : item ∈ items) (splits : Splits item key text)
      (isBound : IsBound key) (noNumber : ¬Decimal.Spelled (Text.trimChars text.toList))

section Meaning

variable [Platform]

/-- A text that spells an integer with more digits than the platform reads. -/
def IsLong (cs : List Char) : Prop :=
  (∃ n, integer? cs = some n) ∧ ¬Platform.Allows (digitCount cs)

/-- Arguments with a bound that the platform does not read. -/
def TooLong (items : List String) : Prop :=
  ∃ item ∈ items, ∃ key text, Splits item key text ∧ IsBound key ∧
    IsLong (Text.trimChars text.toList)

/-- A key and a text that ask for nothing: a bound that is not finite, or a list without parts. -/
inductive Silent (key text : String) : Prop where
  | notFinite {x : Float} (isBound : IsBound key)
      (number : boundValue key (Text.trim text) = .ok (.float x))
      (infinite : Decimal.isFinite x = false)
  | noParts (free : ¬IsBound key) (some_comma : ',' ∈ text.toList)
      (nothing_else : ∀ c ∈ text.toList, c = ',' ∨ Text.isBlank c = true)

/-- The criterion that a key and a text ask for. -/
inductive Asks (key text : String) : Criterion → Prop where
  | bound {relation : Bound} {field : String} {v : Value} {n : Number}
      (asks : AsksBound key relation field) (read : boundValue key (Text.trim text) = .ok v)
      (number : v.number? = some n) :
      Asks key text (.bound field relation (Filter.numberText n))
  | flag {b : Bool} (free : ¬IsBound key)
      (word : Text.lower (Text.trim text) = if b then "true" else "false") :
      Asks key text (.flag key b)
  | anyOf (free : ¬IsBound key) (some_comma : ',' ∈ text.toList) :
      Asks key text (.anyOf key (listParts (Text.trimChars text.toList)))
  | text (free : ¬IsBound key) (no_comma : ',' ∉ text.toList)
      (noFlag : ∀ b : Bool, Text.lower (Text.trim text) ≠ if b then "true" else "false") :
      Asks key text (.text key (Text.trim text))

/-- An argument and its criterion, which is missing exactly if the argument asks for nothing. -/
def Contributes (item : String) (c? : Option Criterion) : Prop :=
  ∃ key text, Splits item key text ∧ (c? = none ↔ Silent key text) ∧
    ∀ c ∈ c?, Asks key text c ∧ c.chars ≠ []

omit [Platform] in
/-- Arguments whose integral bounds are in the range of the doubles. -/
def InRange (items : List String) : Prop :=
  ∀ item ∈ items, ∀ key text n, Splits item key text → IsBound key →
    integer? (Text.trimChars text.toList) = some n → n.natAbs < Decimal.limit

/-- An entry of a kind that filters know: a number under a key that asks for a bound, a flag, a text
or a list. -/
def Handled (key : String) : Value → Prop
  | .int _ | .float _ => (Bound.ofKey? key.toList).isSome = true
  | .bool _ | .str _ | .list _ => True
  | _ => False

end Meaning

/-! ## Keys -/

theorem split_eq_ok_iff {item key text : String} :
    split item = .ok (key, text) ↔ Splits item key text := by
  unfold split Splits
  cases cut : Text.cutAt? '=' item.toList with
  | none =>
      simp only [reduceCtorEq, false_iff]
      rintro ⟨before, spelled, -⟩
      rw [Text.cutAt?_eq_none_iff, spelled] at cut
      simp at cut
  | some parts =>
      obtain ⟨before, after⟩ := parts
      obtain ⟨spelled, absent⟩ := Text.cutAt?_eq_some_iff.mp cut
      dsimp only
      constructor
      · intro isOk
        split at isOk
        · cases isOk
        · rename_i some_key
          cases isOk
          refine ⟨before, by simpa using spelled, absent, by simp, ?_⟩
          simpa using some_key
      · rintro ⟨before', spelled', absent', isKey, some_key⟩
        have same : (before', text.toList) = (before, after) := by
          have cut' := Text.cutAt?_eq_some_iff.mpr ⟨spelled', absent'⟩
          exact Option.some.inj (cut'.symm.trans cut)
        cases same
        rw [← isKey, if_neg (by simpa using some_key)]
        simp

/-- An argument that cannot be split has no equals sign or nothing but blanks in front of it. -/
theorem exists_splits {item : String} (some_sign : '=' ∈ item.toList)
    (some_key : ∀ before after, item.toList = before ++ '=' :: after →
      ¬∀ c ∈ before, Text.isBlank c = true) :
    ∃ key text, Splits item key text := by
  cases cut : Text.cutAt? '=' item.toList with
  | none => exact absurd some_sign (Text.cutAt?_eq_none_iff.mp cut)
  | some parts =>
      obtain ⟨before, after⟩ := parts
      obtain ⟨spelled, absent⟩ := Text.cutAt?_eq_some_iff.mp cut
      refine ⟨String.ofList (Text.trimChars before), String.ofList after, before,
        by simpa using spelled, absent, by simp, ?_⟩
      intro empty
      have nothing : Text.trimChars before = [] := by simpa using empty
      exact some_key before after spelled (Text.stripChars_eq_nil_iff.mp nothing)

theorem Splits.unique {item key key' text text' : String} (splits : Splits item key text)
    (splits' : Splits item key' text') : key = key' ∧ text = text' := by
  have same := (split_eq_ok_iff.mpr splits).symm.trans (split_eq_ok_iff.mpr splits')
  cases same
  exact ⟨rfl, rfl⟩

theorem Splits.not_blank {item key text : String} (splits : Splits item key text)
    {before after : List Char} (spelled : item.toList = before ++ '=' :: after) :
    ¬∀ c ∈ before, Text.isBlank c = true := by
  intro blank
  obtain ⟨before', spelled', absent', isKey, some_key⟩ := splits
  have absent : '=' ∉ before := fun member => absurd (blank '=' member) (by decide)
  have same : (before', text.toList) = (before, after) := by
    have cut := Text.cutAt?_eq_some_iff.mpr ⟨spelled, absent⟩
    have cut' := Text.cutAt?_eq_some_iff.mpr ⟨spelled', absent'⟩
    exact Option.some.inj (cut'.symm.trans cut)
  cases same
  rw [Text.trimChars, Text.stripChars_eq_nil_iff.mpr blank] at isKey
  exact some_key (by simpa using isKey)

/-! ## Bounds -/

theorem isAscii_of_marked {c : Char} (marked : c = '_' ∨ ('A' ≤ c ∧ c ≤ 'Z')) : c.toNat < 0x80 := by
  rcases marked with rfl | ⟨-, below⟩
  · decide
  · exact Nat.lt_of_le_of_lt (Char.le_def.mp below) (by decide)

/-- The filter finds the bounds that the command line finds. -/
theorem AsksBound.ofKey? {key field : String} {relation : Bound}
    (asks : AsksBound key relation field) :
    Bound.ofKey? key.toList = some (relation, field.toList) := by
  obtain ⟨c, rest, spelled, marked, named⟩ := asks.spelled
  have lower : Text.lowerChar c = [c.toLower] := if_pos (isAscii_of_marked marked)
  rw [spelled, named]
  cases relation <;> simp [Bound.ofKey?, Bound.keyStart, Text.after?, lower]

theorem exists_asksBound_iff {key : String} {relation : Bound} :
    (∃ field, AsksBound key relation field) ↔
      ∃ c rest, Text.after? relation.keyStart key.toList = some (c :: rest) ∧
        (c = '_' ∨ ('A' ≤ c ∧ c ≤ 'Z')) := by
  simp only [Text.after?_eq_some_iff]
  constructor
  · rintro ⟨field, c, rest, spelled, marked, -⟩
    exact ⟨c, rest, spelled, marked⟩
  · rintro ⟨c, rest, spelled, marked⟩
    exact ⟨String.ofList (c.toLower :: rest), c, rest, spelled, marked, by simp⟩

theorem isBoundKey_iff {key : String} : isBoundKey key = true ↔ IsBound key := by
  have either : isBoundKey key = true ↔
      (∃ field, AsksBound key .atLeast field) ∨ ∃ field, AsksBound key .atMost field := by
    unfold isBoundKey
    rw [Bool.or_eq_true, exists_asksBound_iff, exists_asksBound_iff]
    refine or_congr ?_ ?_
    all_goals
      generalize Text.after? _ key.toList = front
      rcases front with _ | _ | ⟨c, rest⟩ <;> simp
  rw [either]
  constructor
  · rintro (⟨field, asks⟩ | ⟨field, asks⟩)
    · exact ⟨.atLeast, field, asks⟩
    · exact ⟨.atMost, field, asks⟩
  · rintro ⟨relation, field, asks⟩
    cases relation with
    | atLeast => exact .inl ⟨field, asks⟩
    | atMost => exact .inr ⟨field, asks⟩

/-! ## Numbers -/

theorem isDigit_of_mapM {cs : List Char} {ds : List Nat}
    (read : cs.mapM Text.digitValue? = some ds) : ∀ c ∈ cs, Text.isDigit c = true := by
  induction cs generalizing ds with
  | nil => simp
  | cons c cs ih =>
      simp only [List.mapM_cons, Option.bind_eq_bind, Option.bind_eq_some_iff] at read
      obtain ⟨d, digit, ds', others, -⟩ := read
      rw [List.forall_mem_cons]
      exact ⟨Decimal.isDigit_iff.mpr ⟨d, digit⟩, ih others⟩

/-- A sign and digits without anything between them spell a decimal. -/
theorem spelled_of_integer? {cs : List Char} {n : Int} (spells : integer? cs = some n) :
    Decimal.Spelled cs := by
  obtain ⟨sign, isSign, whole⟩ := Decimal.sign_of_splitSign cs
  unfold integer? at spells
  dsimp only at spells
  split at spells
  · cases spells
  · rename_i some_digit
    obtain ⟨ds, read, -⟩ := Option.map_eq_some_iff.mp spells
    rw [whole]
    have digits := Decimal.digits_of_forall (by simpa using some_digit) (isDigit_of_mapM read)
    have isUnsigned := Decimal.Unsigned.number (.whole digits) .absent
    rw [List.append_nil] at isUnsigned
    exact .signed isSign isUnsigned

theorem stripChars_trim (text : String) :
    Text.stripChars Text.isBlankByNumber (Text.trim text).toList = Text.trimChars text.toList := by
  rw [Text.trim, String.toList_ofList, Text.trimChars]
  apply Text.stripChars_stripChars
  intro c blank
  exact (Bool.and_eq_true_iff.mp blank).1

section Values

variable [Platform]

/-- The value of a bound is a number exactly if its text spells one that the platform reads. -/
theorem exists_boundValue_iff {key text : String} :
    (∃ v, boundValue key (Text.trim text) = .ok v) ↔
      Decimal.Spelled (Text.trimChars text.toList) ∧ ¬IsLong (Text.trimChars text.toList) := by
  have spelled : (Decimal.ofText? (Text.trim text)).isSome = true ↔
      Decimal.Spelled (Text.trimChars text.toList) := by
    rw [Decimal.isSome_ofText?_iff, stripChars_trim]
  have chars : (Text.trim text).toList = Text.trimChars text.toList := by
    rw [Text.trim, String.toList_ofList]
  unfold boundValue
  rw [chars]
  cases isInteger : integer? (Text.trimChars text.toList) with
  | some n =>
      have isLong_iff : IsLong (Text.trimChars text.toList) ↔
          ¬Platform.Allows (digitCount (Text.trimChars text.toList)) :=
        and_iff_right ⟨n, isInteger⟩
      rw [isLong_iff, not_not, and_iff_right (spelled_of_integer? isInteger),
        ← Platform.reads_check_iff (.reading · _)]
      show Reads _ ↔ _
      rw [reads_map_iff, reads_mapError_iff]
      rfl
  | none =>
      have short : ¬IsLong (Text.trimChars text.toList) := by
        rintro ⟨⟨n, isInteger'⟩, -⟩
        rw [isInteger] at isInteger'
        cases isInteger'
      rw [and_iff_left short, ← spelled]
      cases Decimal.ofText? (Text.trim text) <;> simp

theorem number?_of_boundValue {key text : String} {v : Value} (read : boundValue key text = .ok v) :
    (∃ n, integer? text.toList = some n ∧ v = .int n) ∨ ∃ x, v = .float x := by
  unfold boundValue at read
  split at read
  · rename_i n isInteger
    obtain ⟨_, -, rfl⟩ := exists_of_map_eq_ok read
    exact .inl ⟨n, isInteger, rfl⟩
  · split at read
    · cases read
      exact .inr ⟨_, rfl⟩
    · cases read

/-! ## Values -/

theorem value_of_isBound {key : String} (isBound : IsBound key) (text : String) :
    value key text = boundValue key (Text.trim text) :=
  if_pos (isBoundKey_iff.mpr isBound)

omit [Platform] in
theorem mem_trimChars_comma {cs : List Char} : ',' ∈ Text.trimChars cs ↔ ',' ∈ cs :=
  ⟨Text.mem_of_mem_stripChars, fun member => Text.mem_stripChars member (by decide)⟩

/-- The value under a key that asks for no bound: a flag, a list or a text. -/
theorem value_cases {key : String} (free : ¬IsBound key) (text : String) :
    (∃ b : Bool, Text.lower (Text.trim text) = (if b then "true" else "false") ∧
      value key text = .ok (.bool b)) ∨
    (',' ∈ text.toList ∧
      value key text = .ok (.list ((listParts (Text.trimChars text.toList)).map .str))) ∨
    (',' ∉ text.toList ∧
      (∀ b : Bool, Text.lower (Text.trim text) ≠ if b then "true" else "false") ∧
      value key text = .ok (.str (Text.trim text))) := by
  have noBound : ¬isBoundKey key = true := fun isBound => free (isBoundKey_iff.mp isBound)
  unfold value
  dsimp only
  rw [if_neg noBound]
  by_cases yes : Text.lower (Text.trim text) = "true"
  · exact .inl ⟨true, yes, by rw [if_pos (by simpa using yes)]⟩
  by_cases no : Text.lower (Text.trim text) = "false"
  · exact .inl ⟨false, no, by rw [if_neg (by simpa using yes), if_pos (by simpa using no)]⟩
  rw [if_neg (by simpa using yes), if_neg (by simpa using no)]
  have comma : (Text.trim text).toList.contains ',' = true ↔ ',' ∈ text.toList := by
    rw [List.contains_iff_mem, Text.trim, String.toList_ofList, mem_trimChars_comma]
  by_cases some_comma : ',' ∈ text.toList
  · refine .inr (.inl ⟨some_comma, ?_⟩)
    rw [if_pos (comma.mpr some_comma), Text.trim, String.toList_ofList]
  · refine .inr (.inr ⟨some_comma, fun b => ?_, ?_⟩)
    · cases b
      · exact no
      · exact yes
    · rw [if_neg (fun has => some_comma (comma.mp has))]

theorem exists_value_iff {key text : String} :
    (∃ v, value key text = .ok v) ↔
      (IsBound key → Decimal.Spelled (Text.trimChars text.toList) ∧
        ¬IsLong (Text.trimChars text.toList)) := by
  by_cases isBound : IsBound key
  · rw [value_of_isBound isBound, exists_boundValue_iff]
    exact ⟨fun spelled _ => spelled, fun spelled => spelled isBound⟩
  · refine ⟨fun _ absurdly => absurd absurdly isBound, fun _ => ?_⟩
    rcases value_cases isBound text with ⟨b, -, read⟩ | ⟨-, read⟩ | ⟨-, -, read⟩
    all_goals exact ⟨_, read⟩

theorem handled_of_value {key text : String} {v : Value} (read : value key text = .ok v) :
    Handled key v := by
  by_cases isBound : IsBound key
  · rw [value_of_isBound isBound] at read
    obtain ⟨relation, field, asks⟩ := isBound
    rcases number?_of_boundValue read with ⟨n, -, rfl⟩ | ⟨x, rfl⟩
    all_goals simp [Handled, asks.ofKey?]
  · rcases value_cases isBound text with ⟨b, -, read'⟩ | ⟨-, read'⟩ | ⟨-, -, read'⟩
    all_goals
      rw [read'] at read
      cases read
      trivial

/-! ## Criteria -/

omit [Platform] in
theorem listParts_eq_nil_iff {cs : List Char} :
    listParts cs = [] ↔ ∀ c ∈ cs, c = ',' ∨ Text.isBlank c = true := by
  have blank_parts : listParts cs = [] ↔
      ∀ part ∈ Text.splitAt ',' cs, ∀ c ∈ part, Text.isBlank c = true := by
    simp [listParts, List.filter_eq_nil_iff, Text.trimChars, Text.stripChars_eq_nil_iff]
  rw [blank_parts]
  constructor
  · intro blank c member
    by_cases comma : c = ','
    · exact .inl comma
    · obtain ⟨part, there, inside⟩ := Text.exists_mem_splitAt_iff.mpr ⟨member, comma⟩
      exact .inr (blank part there c inside)
  · intro nothing_else part there c inside
    obtain ⟨member, noComma⟩ := Text.exists_mem_splitAt_iff.mp ⟨part, there, inside⟩
    exact (nothing_else c member).resolve_left noComma

omit [Platform] in
theorem listParts_trimChars_eq_nil_iff {cs : List Char} :
    listParts (Text.trimChars cs) = [] ↔ ∀ c ∈ cs, c = ',' ∨ Text.isBlank c = true := by
  rw [listParts_eq_nil_iff]
  refine ⟨fun inside c member => ?_, fun all c member => all c (Text.mem_of_mem_stripChars member)⟩
  cases blank : Text.isBlank c with
  | true => exact .inr rfl
  | false =>
      exact .inl ((inside c (Text.mem_stripChars member blank)).resolve_right (by simp [blank]))

omit [Platform] in
theorem chars_ne_nil (c : Criterion) : c.chars ≠ [] := by
  cases c with
  | bound field relation number => cases relation <;> simp [Criterion.chars, Bound.sign]
  | flag => simp [Criterion.chars]
  | text => simp [Criterion.chars, Filter.termChars]
  | anyOf => simp [Criterion.chars]

omit [Platform] in
theorem comma_mem_lower {text : String} (some_comma : ',' ∈ text.toList) :
    ',' ∈ (Text.lower (Text.trim text)).toList := by
  rw [Text.lower, String.toList_ofList, List.mem_flatMap]
  refine ⟨',', ?_, by decide⟩
  rw [Text.trim, String.toList_ofList]
  exact mem_trimChars_comma.mpr some_comma

theorem not_silent_of_flag {key text : String} {b : Bool} (free : ¬IsBound key)
    (word : Text.lower (Text.trim text) = if b then "true" else "false") : ¬Silent key text := by
  rintro (⟨isBound, -, -⟩ | ⟨-, some_comma, -⟩)
  · exact free isBound
  · have member := comma_mem_lower some_comma
    rw [word] at member
    cases b <;> simp at member

/-- What the entry of an argument contributes to the filter. -/
structure EntryContributes (key text : String) (c? : Option Criterion) : Prop where
  silent : c? = none ↔ Silent key text
  asks : ∀ c ∈ c?, Asks key text c

theorem EntryContributes.none {key text : String} (silent : Silent key text) :
    EntryContributes key text none :=
  ⟨iff_of_true rfl silent, by simp⟩

theorem EntryContributes.some {key text : String} {c : Criterion} (speaks : ¬Silent key text)
    (asks : Asks key text c) : EntryContributes key text (some c) :=
  ⟨iff_of_false (by simp) speaks, by simpa using asks⟩

theorem exists_criterion_of_isBound {key text : String} {v : Value} (isBound : IsBound key)
    (read : boundValue key (Text.trim text) = .ok v)
    (inRange : ∀ n, integer? (Text.trimChars text.toList) = some n → n.natAbs < Decimal.limit) :
    ∃ c?, Criterion.ofEntry? key v = .ok c? ∧ EntryContributes key text c? := by
  obtain ⟨relation, field, asks⟩ := id isBound
  have criterion {n : Number} {finite : Bool} (known : n.isFinite = .ok finite) :
      Criterion.ofNumber? key n = .ok (if finite then
        some (.bound field relation (Filter.numberText n)) else none) := by
    rw [Criterion.ofNumber?, asks.ofKey?]
    simp only [known, String.ofList_toList]
    cases finite <;> rfl
  rcases number?_of_boundValue read with ⟨n, isInteger, rfl⟩ | ⟨x, rfl⟩
  · rw [Text.trim, String.toList_ofList] at isInteger
    have finite := Filter.isFinite_int ((Number.floatOfInt_eq_ok_iff n).mpr (inRange n isInteger))
    refine ⟨_, by rw [Criterion.ofEntry?, criterion finite]; rfl, .some ?_ (.bound asks read rfl)⟩
    rintro (⟨-, number, -⟩ | ⟨free, -, -⟩)
    · rw [read] at number
      cases number
    · exact free isBound
  · have known : (Number.float x).isFinite = .ok (Decimal.isFinite x) := rfl
    refine ⟨_, by rw [Criterion.ofEntry?, criterion known]; rfl, ?_⟩
    cases finite : Decimal.isFinite x with
    | false => exact .none (.notFinite isBound read finite)
    | true =>
        refine .some ?_ (.bound asks read rfl)
        rintro (⟨-, number, infinite⟩ | ⟨free, -, -⟩)
        · rw [read] at number
          cases number
          simp [finite] at infinite
        · exact free isBound

/-- The entry of an argument becomes one criterion, or none if the argument asks for nothing. -/
theorem exists_criterion {key text : String} {v : Value} (read : value key text = .ok v)
    (inRange : IsBound key → ∀ n, integer? (Text.trimChars text.toList) = some n →
      n.natAbs < Decimal.limit) :
    ∃ c?, Criterion.ofEntry? key v = .ok c? ∧ EntryContributes key text c? := by
  by_cases isBound : IsBound key
  · rw [value_of_isBound isBound] at read
    exact exists_criterion_of_isBound isBound read (inRange isBound)
  rcases value_cases isBound text with
    ⟨b, word, read'⟩ | ⟨some_comma, read'⟩ | ⟨no_comma, noFlag, read'⟩
  all_goals
    rw [read'] at read
    cases read
  · exact ⟨_, rfl, .some (not_silent_of_flag isBound word) (.flag isBound word)⟩
  · have texts : ((listParts (Text.trimChars text.toList)).map Value.str).map Value.text =
        listParts (Text.trimChars text.toList) := by
      rw [List.map_map]
      exact List.map_id _
    refine ⟨_, by rw [Criterion.ofEntry?, Filter.checkTexts_texts]; rfl, ?_⟩
    rw [texts, Criterion.ofTexts?]
    cases empty : (listParts (Text.trimChars text.toList)).isEmpty with
    | true =>
        rw [List.isEmpty_iff, listParts_trimChars_eq_nil_iff] at empty
        exact .none (.noParts isBound some_comma empty)
    | false =>
        refine .some ?_ (.anyOf isBound some_comma)
        rintro (⟨absurdly, -, -⟩ | ⟨-, -, nothing_else⟩)
        · exact isBound absurdly
        · rw [← listParts_trimChars_eq_nil_iff, ← List.isEmpty_iff, empty] at nothing_else
          cases nothing_else
  · refine ⟨_, rfl, .some ?_ (.text isBound no_comma noFlag)⟩
    rintro (⟨absurdly, -, -⟩ | ⟨-, some_comma, -⟩)
    · exact isBound absurdly
    · exact no_comma some_comma

/-! ## Lists of arguments -/

/-- An argument and the entry that it is read as. -/
def Gives (item : String) (entry : String × Value) : Prop :=
  ∃ text, Splits item entry.1 text ∧ value entry.1 text = .ok entry.2

omit [Platform] in
theorem get?_append_named (before : Mapping) (key other : String) (v : Value) :
    Mapping.get? (before ++ [(.str key, v)]) other = none ↔
      before.get? other = none ∧ key ≠ other := by
  unfold Mapping.get? Mapping.find?
  induction before with
  | nil => simp [Keyed.find?, Value.sameKey, Value.keyNumber?, Value.keyText?]
  | cons e before ih =>
      rw [List.cons_append, Keyed.find?, Keyed.find?]
      split
      · simp
      · exact ih

theorem readFrom_cons_eq_ok_iff {before m : Mapping} {item : String} {rest : List String} :
    readFrom before (item :: rest) = .ok m ↔
      ∃ entry, Gives item entry ∧ before.get? entry.1 = none ∧
        readFrom (before ++ [(.str entry.1, entry.2)]) rest = .ok m := by
  rw [readFrom]
  constructor
  · intro isOk
    obtain ⟨⟨key, text⟩, splits, isOk⟩ := exists_of_bind_eq_ok isOk
    dsimp only at isOk
    split at isOk
    · cases isOk
    · rename_i free
      obtain ⟨v, read, isOk⟩ := exists_of_bind_eq_ok isOk
      exact ⟨(key, v), ⟨text, split_eq_ok_iff.mp splits, read⟩, by simpa using free, isOk⟩
  · rintro ⟨⟨key, v⟩, ⟨text, splits, read⟩, free, isOk⟩
    rw [split_eq_ok_iff.mpr splits]
    dsimp only at read free isOk
    simp only [bind, Except.bind, free, read]
    exact isOk

/-- Arguments are read one by one, each under a key of its own. -/
theorem readFrom_eq_ok_iff {before m : Mapping} {items : List String} :
    readFrom before items = .ok m ↔
      ∃ entries, List.Forall₂ Gives items entries ∧ m = before ++ Mapping.ofNamed entries ∧
        (entries.map Prod.fst).Nodup ∧ ∀ e ∈ entries, before.get? e.1 = none := by
  induction items generalizing before with
  | nil =>
      simp only [List.forall₂_nil_left_iff, readFrom, Except.ok.injEq, exists_eq_left]
      simp [Mapping.ofNamed, eq_comm]
  | cons item items ih =>
      simp only [readFrom_cons_eq_ok_iff, ih, get?_append_named]
      constructor
      · rintro ⟨entry, gives, free, entries, all, rfl, distinct, others⟩
        refine ⟨entry :: entries, .cons gives all, by simp [Mapping.ofNamed], ?_, ?_⟩
        · rw [List.map_cons, List.nodup_cons]
          refine ⟨fun member => ?_, distinct⟩
          obtain ⟨e, among, same⟩ := List.mem_map.mp member
          exact (others e among).2 same.symm
        · exact List.forall_mem_cons.mpr ⟨free, fun e among => (others e among).1⟩
      · rintro ⟨_, gives, rfl, distinct, others⟩
        cases gives with
        | @cons _ entry _ entries gives all =>
        rw [List.map_cons, List.nodup_cons] at distinct
        rw [List.forall_mem_cons] at others
        refine ⟨entry, gives, others.1, entries, all, by simp [Mapping.ofNamed], distinct.2, ?_⟩
        exact fun e among => ⟨others.2 e among, fun same =>
          distinct.1 (List.mem_map.mpr ⟨e, among, same.symm⟩)⟩

theorem read_eq_ok_iff {m : Mapping} {items : List String} :
    read items = .ok m ↔ ∃ entries, List.Forall₂ Gives items entries ∧
      m = Mapping.ofNamed entries ∧ (entries.map Prod.fst).Nodup := by
  rw [read, readFrom_eq_ok_iff]
  simp [Mapping.get?, Mapping.find?, Keyed.find?]

/-! ## Refusals -/

/-- Whether the keys of two arguments differ. -/
def KeysDiffer (first second : String) : Prop :=
  ∀ key text text', Splits first key text → ¬Splits second key text'

section

variable {items : List String} {entries : List (String × Value)}

theorem exists_entry_of_mem (gives : List.Forall₂ Gives items entries) {item : String}
    (given : item ∈ items) : ∃ e ∈ entries, Gives item e := by
  induction gives with
  | nil => cases given
  | cons first others ih =>
      rcases List.mem_cons.mp given with rfl | later
      · exact ⟨_, List.mem_cons_self, first⟩
      · obtain ⟨e, among, own⟩ := ih later
        exact ⟨e, List.mem_cons_of_mem _ among, own⟩

theorem exists_item_of_mem (gives : List.Forall₂ Gives items entries) {e : String × Value}
    (among : e ∈ entries) : ∃ item ∈ items, Gives item e := by
  induction gives with
  | nil => cases among
  | cons first others ih =>
      rcases List.mem_cons.mp among with rfl | later
      · exact ⟨_, List.mem_cons_self, first⟩
      · obtain ⟨item, given, own⟩ := ih later
        exact ⟨item, List.mem_cons_of_mem _ given, own⟩

theorem exists_entries (all : ∀ item ∈ items, ∃ e, Gives item e) :
    ∃ entries, List.Forall₂ Gives items entries := by
  induction items with
  | nil => exact ⟨[], .nil⟩
  | cons item items ih =>
      rw [List.forall_mem_cons] at all
      obtain ⟨⟨e, own⟩, others⟩ := all
      obtain ⟨entries, gives⟩ := ih others
      exact ⟨e :: entries, .cons own gives⟩

theorem nodup_keys_iff (gives : List.Forall₂ Gives items entries) :
    (entries.map Prod.fst).Nodup ↔ items.Pairwise KeysDiffer := by
  induction gives with
  | nil => simp
  | @cons item entry items entries first gives ih =>
      rw [List.map_cons, List.nodup_cons, List.pairwise_cons, ih]
      refine and_congr_left fun _ => ?_
      obtain ⟨text, splits, -⟩ := first
      constructor
      · intro absent item' given key text' text'' splits' again
        obtain ⟨e, among, _, own, -⟩ := exists_entry_of_mem gives given
        have same : e.1 = entry.1 := by
          rw [(own.unique again).1, (splits'.unique splits).1]
        exact absent (List.mem_map.mpr ⟨e, among, same⟩)
      · intro differ member
        obtain ⟨e, among, same⟩ := List.mem_map.mp member
        obtain ⟨item', given, text', again, -⟩ := exists_item_of_mem gives among
        rw [same] at again
        exact differ item' given entry.1 text text' splits again

end

theorem exists_gives_iff {item : String} :
    (∃ entry, Gives item entry) ↔ ∃ key text, Splits item key text ∧
      (IsBound key → Decimal.Spelled (Text.trimChars text.toList) ∧
        ¬IsLong (Text.trimChars text.toList)) := by
  constructor
  · rintro ⟨⟨key, v⟩, text, splits, read⟩
    exact ⟨key, text, splits, exists_value_iff.mp ⟨v, read⟩⟩
  · rintro ⟨key, text, splits, spelled⟩
    obtain ⟨v, read⟩ := exists_value_iff.mpr spelled
    exact ⟨(key, v), text, splits, read⟩

theorem exists_gives_of_not_refused {items : List String} (unrefused : ¬Refused items)
    (short : ¬TooLong items) {item : String} (given : item ∈ items) : ∃ e, Gives item e := by
  have some_sign : '=' ∈ item.toList := by
    by_contra absent
    exact unrefused (.noSign given absent)
  obtain ⟨key, text, splits⟩ := exists_splits some_sign fun before after spelled blank =>
    unrefused (.blankKey given spelled blank)
  refine exists_gives_iff.mpr ⟨key, text, splits, fun isBound => ⟨?_, fun long => ?_⟩⟩
  · by_contra noNumber
    exact unrefused (.notNumber given splits isBound noNumber)
  · exact short ⟨item, given, key, text, splits, isBound, long⟩

/-- Arguments are read exactly if there is no reason to refuse them and no bound is too long. -/
theorem exists_read_iff {items : List String} :
    (∃ m, read items = .ok m) ↔ ¬Refused items ∧ ¬TooLong items := by
  constructor
  · rintro ⟨m, isOk⟩
    obtain ⟨entries, gives, -, distinct⟩ := read_eq_ok_iff.mp isOk
    have splitOf {item : String} (given : item ∈ items) : ∃ key text, Splits item key text ∧
        (IsBound key → Decimal.Spelled (Text.trimChars text.toList) ∧
          ¬IsLong (Text.trimChars text.toList)) := by
      obtain ⟨e, -, own⟩ := exists_entry_of_mem gives given
      exact exists_gives_iff.mp ⟨e, own⟩
    refine ⟨fun refused => ?_, ?_⟩
    swap
    · rintro ⟨item, given, key, text, splits, isBound, long⟩
      obtain ⟨key', text', splits', spelled⟩ := splitOf given
      obtain ⟨rfl, rfl⟩ := splits.unique splits'
      exact (spelled isBound).2 long
    cases refused with
    | noSign given absent =>
        obtain ⟨key, text, ⟨before, spelled, -⟩, -⟩ := splitOf given
        exact absent (by simp [spelled])
    | blankKey given spelled blank =>
        obtain ⟨key, text, splits, -⟩ := splitOf given
        exact splits.not_blank spelled blank
    | repeated given splits again =>
        have differ := (nodup_keys_iff gives).mp distinct
        exact List.pairwise_iff_forall_sublist.mp differ given _ _ _ splits again
    | notNumber given splits isBound noNumber =>
        obtain ⟨key, text, splits', spelled⟩ := splitOf given
        obtain ⟨rfl, rfl⟩ := splits.unique splits'
        exact noNumber (spelled isBound).1
  · rintro ⟨unrefused, short⟩
    obtain ⟨entries, gives⟩ :=
      exists_entries fun item => exists_gives_of_not_refused unrefused short
    have differ : items.Pairwise KeysDiffer :=
      List.pairwise_iff_forall_sublist.mpr fun given key text text' splits again =>
        unrefused (.repeated given splits again)
    exact ⟨_, read_eq_ok_iff.mpr ⟨entries, gives, rfl, (nodup_keys_iff gives).mpr differ⟩⟩

/-! ## The filter of a list of arguments -/

theorem exists_contributes {item : String} {e : String × Value} (gives : Gives item e)
    (inRange : ∀ key text n, Splits item key text → IsBound key →
      integer? (Text.trimChars text.toList) = some n → n.natAbs < Decimal.limit) :
    ∃ c?, Criterion.ofEntry? e.1 e.2 = .ok c? ∧ Contributes item c? := by
  obtain ⟨text, splits, read⟩ := gives
  obtain ⟨c?, criterion, contributes⟩ := exists_criterion read fun isBound n =>
    inRange _ _ n splits isBound
  exact ⟨c?, criterion, _, text, splits, contributes.silent, fun c member =>
    ⟨contributes.asks c member, chars_ne_nil c⟩⟩

theorem exists_criteria {items : List String} {entries : List (String × Value)}
    (gives : List.Forall₂ Gives items entries) (inRange : InRange items) :
    ∃ criteria, List.Forall₂ Contributes items criteria ∧
      Filter.criteria (Mapping.ofNamed entries) = .ok criteria.reduceOption := by
  induction gives with
  | nil => exact ⟨[], .nil, rfl⟩
  | @cons item e items entries first gives ih =>
      obtain ⟨own, others⟩ := List.forall_mem_cons.mp inRange
      obtain ⟨c?, criterion, contributes⟩ := exists_contributes first own
      obtain ⟨criteria, all, compiled⟩ := ih others
      refine ⟨c? :: criteria, .cons contributes all, ?_⟩
      have named : Mapping.ofNamed (e :: entries) = (.str e.1, e.2) :: Mapping.ofNamed entries :=
        rfl
      rw [named, Filter.criteria, Filter.ofPair?_named, criterion, compiled]
      cases c? <;> rfl

end Values

end Bazaar.FilterArgument
