import Bazaar.Proofs.Json.Number
import Bazaar.Proofs.Json.Plain

/-!
# Documents read back

A document is read as itself, on one line or with any indentation, if no object in it repeats a name
and no double in it is undefined.  The reader needs as many levels as the document has, and the
platform must allow the digits of its integers.
-/

namespace Bazaar.Json

/-! ## Strings -/

section Strings

variable {opened fuel : Nat} {rest : Phrase}

/-- The four digits of a control character. -/
theorem paddedHex_four {n : Nat} (control : n < 32) :
    Text.paddedHex 4 n = ['0', '0', (n / 16).digitChar, (n % 16).digitChar] := by
  decide +revert

theorem fourHex?_control {n : Nat} (control : n < 32) :
    fourHex? (.char '0') (.char '0') (.char (n / 16).digitChar) (.char (n % 16).digitChar) =
      some n := by
  decide +revert

theorem ofCode_control {c : Char} (control : c.toNat < 32) : Sign.ofCode c.toNat = .char c := by
  rw [Sign.ofCode_eq_char (by omega), Char.ofNat_toNat]

/-- What is read of a string after one sign of it. -/
def consSign (s : Sign) (read : Except ReadError (Phrase × Phrase)) :
    Except ReadError (Phrase × Phrase) :=
  read.map fun (p, tail) => (s :: p, tail)

/-- A sign is read as itself, escaped or not. -/
theorem stringFrom_stringSign (s : Sign) (behind : rest ≠ []) :
    stringFrom opened (fuel + 1) (stringSign s ++ rest) =
      consSign s (stringFrom opened fuel rest) := by
  cases s with
  | half h => rfl
  | char c =>
      unfold stringSign
      dsimp only
      unfold stringChar
      split
      case h_8 _ notQuote notEscape _ _ _ _ _ =>
        split_ifs with control
        · obtain ⟨e, tail, rfl⟩ := List.exists_cons_of_ne_nil behind
          have high : isHighSurrogate c.toNat = false := by
            simp [isHighSurrogate]
            omega
          rw [paddedHex_four control]
          simp [stringFrom, fourHex?_control control, high, ofCode_control control, consSign]
        · simp only [Phrase.ofChars_cons, Phrase.ofChars_nil, List.cons_append, List.nil_append,
            stringFrom, beq_iff_eq, if_neg notQuote, if_neg notEscape, if_neg control, consSign]
      all_goals rfl

theorem length_le_flatMap_stringSign (p : Phrase) : p.length ≤ (p.flatMap stringSign).length := by
  induction p with
  | nil => simp
  | cons s p ih =>
      have some_sign : 0 < (stringSign s).length := by
        unfold stringSign
        split
        · unfold stringChar
          split <;> (try split) <;> simp
        · simp
      rw [List.flatMap_cons, List.length_append, List.length_cons]
      omega

/-- The signs of a string are read up to its closing quote. -/
theorem stringFrom_flatMap (p rest : Phrase) (enough : p.length < fuel) :
    stringFrom opened fuel (p.flatMap stringSign ++ .char '"' :: rest) = .ok (p, rest) := by
  induction p generalizing fuel with
  | nil =>
      obtain ⟨fuel, rfl⟩ := Nat.exists_eq_add_one_of_ne_zero (Nat.ne_of_gt enough)
      rfl
  | cons s p ih =>
      obtain ⟨fuel, rfl⟩ := Nat.exists_eq_add_one_of_ne_zero (Nat.ne_zero_of_lt enough)
      rw [List.flatMap_cons, List.append_assoc, stringFrom_stringSign s (by simp),
        ih (Nat.lt_of_succ_lt_succ enough)]
      rfl

/-- A string is read as itself. -/
theorem string_append (p rest : Phrase) :
    string (p.flatMap stringSign ++ .char '"' :: rest) = .ok (p, rest) := by
  have enough := length_le_flatMap_stringSign p
  exact stringFrom_flatMap p rest (by rw [List.length_append]; omega)

end Strings

/-! ## Blanks -/

section Blanks

variable {front : List Char} {rest : Phrase}

/-- Signs that do not start with a blank. -/
def StartsSolid (p : Phrase) : Prop :=
  ∀ c, Sign.char c ∈ p.head? → isSpace c = false

theorem startsSolid_cons {c : Char} (solid : isSpace c = false) : StartsSolid (.char c :: rest) := by
  rintro d ⟨⟩
  exact solid

/-- Blanks are dropped up to what follows them. -/
theorem skipSpace_append (blank : ∀ c ∈ front, isSpace c = true) (behind : StartsSolid rest) :
    skipSpace (Phrase.ofChars front ++ rest) = rest := by
  induction front with
  | nil =>
      rw [Phrase.ofChars_nil, List.nil_append]
      cases rest with
      | nil => rfl
      | cons s rest =>
          cases s with
          | half h => rfl
          | char c =>
              rw [skipSpace, behind c rfl]
              rfl
  | cons c front ih =>
      rw [List.forall_mem_cons] at blank
      rw [Phrase.ofChars_cons, List.cons_append, skipSpace, if_pos blank.1, ih blank.2]

theorem skipSpace_of_startsSolid (behind : StartsSolid rest) : skipSpace rest = rest :=
  @skipSpace_append [] rest (by simp) behind

theorem lineStart_blank (indent : Option Nat) (depth : Nat) :
    ∀ c ∈ lineStart indent depth, isSpace c = true := by
  cases indent with
  | none => simp [lineStart]
  | some width =>
      intro c member
      rcases List.mem_cons.mp member with rfl | space
      · rfl
      · rw [List.eq_of_mem_replicate space]
        rfl

/-- A comma and blanks stand between two items. -/
theorem exists_between (indent : Option Nat) (depth : Nat) :
    ∃ gap, between indent depth = ',' :: gap ∧ ∀ c ∈ gap, isSpace c = true := by
  cases indent with
  | none => exact ⟨[' '], rfl, by simp [isSpace]⟩
  | some width => exact ⟨_, rfl, lineStart_blank (some width) depth⟩

theorem endsScalar_cons {c : Char} (mark : isSpace c = true ∨ c ∈ [',', ']', '}']) :
    EndsScalar (.char c :: rest) := by
  rintro d ⟨⟩
  simp only [isSpace, Bool.or_eq_true, beq_iff_eq, List.mem_cons, List.not_mem_nil, or_false] at mark
  rcases mark with (((rfl | rfl) | rfl) | rfl) | rfl | rfl | rfl <;> decide

theorem endsScalar_append (blank : ∀ c ∈ front, isSpace c = true) (ends : EndsScalar rest) :
    EndsScalar (Phrase.ofChars front ++ rest) := by
  cases front with
  | nil => exact ends
  | cons c front => exact endsScalar_cons (.inl (blank c List.mem_cons_self))

end Blanks

/-! ## Values -/

/-- A character that a word or a number starts with. -/
def StartsScalar (c : Char) : Prop :=
  c.isDigit = true ∨ c ∈ ['-', 'n', 't', 'f', 'N', 'I']

/-- A character that a value starts with. -/
def StartsValue (c : Char) : Prop :=
  StartsScalar c ∨ c ∈ ['"', '[', '{']

theorem StartsScalar.ne {c d : Char} (starts : StartsScalar c) (notDigit : d.isDigit = false)
    (other : d ∉ ['-', 'n', 't', 'f', 'N', 'I']) : c ≠ d := by
  rintro rfl
  rcases starts with digit | word
  · rw [digit] at notDigit
    cases notDigit
  · exact other word

theorem StartsValue.ne {c d : Char} (starts : StartsValue c) (notDigit : d.isDigit = false)
    (other : d ∉ ['-', 'n', 't', 'f', 'N', 'I']) (other' : d ∉ ['"', '[', '{']) : c ≠ d := by
  rcases starts with scalar | opening
  · exact scalar.ne notDigit other
  · rintro rfl
    exact other' opening

theorem StartsValue.isSpace {c : Char} (starts : StartsValue c) : isSpace c = false := by
  have blank : c ≠ ' ' := starts.ne rfl (by decide) (by decide)
  have tab : c ≠ '\t' := starts.ne rfl (by decide) (by decide)
  have line : c ≠ '\n' := starts.ne rfl (by decide) (by decide)
  have feed : c ≠ '\r' := starts.ne rfl (by decide) (by decide)
  simp [Json.isSpace, blank, tab, line, feed]

theorem value_of_startsScalar [Platform] {c : Char} {p : Phrase} (fuel room : Nat)
    (starts : StartsScalar c) :
    value (fuel + 1) room (.char c :: p) = scalar (.char c :: p) := by
  have quote : c ≠ '"' := starts.ne rfl (by decide)
  have bracket : c ≠ '[' := starts.ne rfl (by decide)
  have brace : c ≠ '{' := starts.ne rfl (by decide)
  rw [value]
  · exact fun _ same => quote (Sign.char.inj (List.cons.inj same).1)
  · exact fun _ same => bracket (Sign.char.inj (List.cons.inj same).1)
  · exact fun _ same => brace (Sign.char.inj (List.cons.inj same).1)

theorem startsScalar_of_digit {negative : Bool} {cs : List Char}
    (digit : ∃ c ∈ cs.head?, c.isDigit = true) :
    ∃ c ∈ ((if negative then ['-'] else []) ++ cs).head?, StartsScalar c := by
  cases negative with
  | true => exact ⟨'-', rfl, .inr (by decide)⟩
  | false =>
      obtain ⟨c, first, digit⟩ := digit
      exact ⟨c, first, .inl digit⟩

theorem startsScalar_toString (n : Int) : ∃ c ∈ (toString n).toList.head?, StartsScalar c := by
  rw [toList_toString_int]
  have digit := @exists_digit_of_isUnsigned _ []
    (Filter.isUnsigned_of_isDigits (Filter.isDigits_digitsInBase n.natAbs))
  rw [List.append_nil] at digit
  exact startsScalar_of_digit digit

theorem startsScalar_floatChars (x : Float) : ∃ c ∈ (floatChars x).head?, StartsScalar c := by
  unfold floatChars
  cases reads : Decimal.read x with
  | nan => exact ⟨'N', rfl, .inr (by decide)⟩
  | infinite negative => cases negative <;> exact ⟨_, rfl, .inr (by decide)⟩
  | finite negative m e =>
      have digit := @exists_digit_of_isUnsigned _ [] (Filter.isUnsigned_magnitudeText m e)
      rw [List.append_nil] at digit
      dsimp only
      rw [toList_text reads]
      exact startsScalar_of_digit digit

theorem head?_ofChars {c : Char} {cs : List Char} (first : c ∈ cs.head?) :
    Sign.char c ∈ (Phrase.ofChars cs).head? := by
  rw [Phrase.ofChars, List.head?_map, Option.mem_def.mp first]
  rfl

/-- Every value starts with a character that says which kind it is of. -/
theorem startsValue_written (indent : Option Nat) (depth : Nat) (v : Json) :
    ∃ c, Sign.char c ∈ (written indent depth v).head? ∧ StartsValue c := by
  unfold written
  split
  · exact ⟨'n', rfl, .inl (.inr (by decide))⟩
  · rename_i b
    cases b <;> exact ⟨_, rfl, .inl (.inr (by decide))⟩
  · obtain ⟨c, first, starts⟩ := startsScalar_toString _
    exact ⟨c, head?_ofChars first, .inl starts⟩
  · obtain ⟨c, first, starts⟩ := startsScalar_floatChars _
    exact ⟨c, head?_ofChars first, .inl starts⟩
  all_goals exact ⟨_, rfl, .inr (by decide)⟩

/-! ## Documents -/

theorem startsSolid_written (indent : Option Nat) (depth : Nat) (v : Json) (rest : Phrase) :
    StartsSolid (written indent depth v ++ rest) := by
  obtain ⟨c, first, starts⟩ := startsValue_written indent depth v
  intro d head
  rw [List.head?_append, Option.mem_def.mp first] at head
  cases head
  exact starts.isSpace

variable [Platform]

/-- A value is read as itself wherever so many levels are left, whatever follows it.  Two steps for
each sign are enough. -/
def ReadsBack (room : Nat) (v : Json) : Prop :=
  ∀ (indent : Option Nat) (depth fuel : Nat) (rest : Phrase),
    2 * (written indent depth v).length ≤ fuel → EndsScalar rest →
      value fuel room (written indent depth v ++ rest) = .ok (v, rest)

section Trees

variable {room fuel depth : Nat} {indent : Option Nat} {closing : List Char} {rest : Phrase}

theorem ReadsBack.scalar {v : Json} {cs : List Char}
    (text : ∀ indent depth, written indent depth v = Phrase.ofChars cs)
    (starts : ∃ c ∈ cs.head?, StartsScalar c)
    (read : ∀ rest, EndsScalar rest → Json.scalar (Phrase.ofChars cs ++ rest) = .ok (v, rest)) :
    ReadsBack room v := by
  intro indent depth fuel rest enough ends
  obtain ⟨c, first, starts⟩ := starts
  have own := read rest ends
  rw [text] at enough ⊢
  cases cs with
  | nil => cases first
  | cons d cs =>
      cases first
      obtain ⟨fuel, rfl⟩ : ∃ n, fuel = n + 1 := Nat.exists_eq_add_one_of_ne_zero (by
        rw [Phrase.length_ofChars, List.length_cons] at enough
        omega)
      rw [Phrase.ofChars_cons, List.cons_append, value_of_startsScalar fuel room starts]
      exact own

theorem ReadsBack.str (s : Phrase) : ReadsBack room (.str s) := by
  intro indent depth fuel rest enough ends
  obtain ⟨fuel, rfl⟩ : ∃ n, fuel = n + 1 := Nat.exists_eq_add_one_of_ne_zero (by
    simp [written, quote] at enough
    omega)
  have text : written indent depth (.str s) ++ rest =
      .char '"' :: (s.flatMap stringSign ++ .char '"' :: rest) := by
    simp [written, quote]
  rw [text, value, string_append]
  rfl

/-! ### Items -/

section Items

variable {x : Json} {tail : Phrase}

theorem items_last (read : ReadsBack room x)
    (enough : 2 * (written indent depth x).length ≤ fuel) (ends : EndsScalar rest)
    (next : skipSpace rest = .char ']' :: tail) :
    items (fuel + 1) room (written indent depth x ++ rest) = .ok ([x], tail) := by
  rw [items, read indent depth fuel rest enough ends]
  dsimp only [bind, Except.bind]
  rw [next]
  rfl

theorem items_next (read : ReadsBack room x)
    (enough : 2 * (written indent depth x).length ≤ fuel) (ends : EndsScalar rest)
    (next : skipSpace rest = .char ',' :: tail) :
    items (fuel + 1) room (written indent depth x ++ rest) =
      (items fuel room (skipSpace tail)).map fun (xs, tail) => (x :: xs, tail) := by
  rw [items, read indent depth fuel rest enough ends]
  dsimp only [bind, Except.bind]
  rw [next]
  rfl

/-- The items of an array are read up to its closing bracket. -/
theorem items_writtenItems {xs : List Json} (each : ∀ y ∈ x :: xs, ReadsBack room y)
    (blank : ∀ c ∈ closing, isSpace c = true)
    (enough :
      2 * ((written indent depth x).length + (writtenItems indent depth xs).length) < fuel) :
    items fuel room
        (written indent depth x ++
          (writtenItems indent depth xs ++ (Phrase.ofChars closing ++ .char ']' :: rest))) =
      .ok (x :: xs, rest) := by
  -- Each item takes one step of the list, which its separator pays for.
  induction xs generalizing x fuel with
  | nil =>
      obtain ⟨own, -⟩ := List.forall_mem_cons.mp each
      obtain ⟨fuel, rfl⟩ := Nat.exists_eq_add_one_of_ne_zero (Nat.ne_zero_of_lt enough)
      rw [writtenItems, List.nil_append]
      exact items_last own (by omega) (endsScalar_append blank (endsScalar_cons (.inr (by decide))))
        (skipSpace_append blank (startsSolid_cons rfl))
  | cons y ys ih =>
      obtain ⟨own, others⟩ := List.forall_mem_cons.mp each
      obtain ⟨fuel, rfl⟩ := Nat.exists_eq_add_one_of_ne_zero (Nat.ne_zero_of_lt enough)
      obtain ⟨gap, comma, blank_gap⟩ := exists_between indent depth
      have length : (writtenItems indent depth (y :: ys)).length = gap.length + 1 +
          (written indent depth y).length + (writtenItems indent depth ys).length := by
        simp only [writtenItems, comma, List.length_append, Phrase.length_ofChars, List.length_cons]
      have split :
          writtenItems indent depth (y :: ys) ++ (Phrase.ofChars closing ++ .char ']' :: rest) =
            .char ',' :: (Phrase.ofChars gap ++ (written indent depth y ++
              (writtenItems indent depth ys ++ (Phrase.ofChars closing ++ .char ']' :: rest)))) := by
        simp [writtenItems, comma]
      rw [length] at enough
      rw [split, items_next own (by omega) (endsScalar_cons (.inr (by decide)))
        (skipSpace_of_startsSolid (startsSolid_cons rfl)),
        skipSpace_append blank_gap (startsSolid_written indent depth y _), ih others (by omega)]
      rfl

end Items

/-! ### Members -/

section Members

variable {before : Members} {name : Phrase} {v : Json} {tail : Phrase}

omit [Platform] in
theorem not_mem_of_nodup {ms : Members}
    (distinct : ((before ++ (name, v) :: ms).map Prod.fst).Nodup) :
    name ∉ before.map Prod.fst := by
  rw [List.map_append, List.nodup_append] at distinct
  intro member
  exact distinct.2.2 name member name List.mem_cons_self rfl

/-- The value of a member is read behind its name. -/
theorem members_value (read : ReadsBack room v)
    (enough : 2 * (written indent depth v).length ≤ fuel) (ends : EndsScalar rest) :
    members (fuel + 1) room before
        (quote name ++ (Phrase.ofChars [':', ' '] ++ (written indent depth v ++ rest))) =
      match skipSpace rest with
      | .char '}' :: tail => .ok (Entries.insert before name v, tail)
      | .char ',' :: tail => members fuel room (Entries.insert before name v) (skipSpace tail)
      | rest => .error ⟨.expectingComma, rest.length⟩ := by
  have text : quote name ++ (Phrase.ofChars [':', ' '] ++ (written indent depth v ++ rest)) =
      .char '"' :: (name.flatMap stringSign ++
        .char '"' :: (.char ':' :: (.char ' ' :: (written indent depth v ++ rest)))) := by
    simp [quote]
  have colon (p : Phrase) : skipSpace (.char ':' :: p) = .char ':' :: p :=
    skipSpace_of_startsSolid (startsSolid_cons rfl)
  have blank : skipSpace (.char ' ' :: (written indent depth v ++ rest)) =
      written indent depth v ++ rest :=
    @skipSpace_append [' '] _ (by simp [isSpace]) (startsSolid_written indent depth v rest)
  rw [text, members]
  simp only [string_append, bind, Except.bind, colon, blank, read indent depth fuel rest enough ends]
  rfl

theorem members_last (read : ReadsBack room v)
    (enough : 2 * (written indent depth v).length ≤ fuel) (ends : EndsScalar rest)
    (absent : name ∉ before.map Prod.fst) (next : skipSpace rest = .char '}' :: tail) :
    members (fuel + 1) room before
        (quote name ++ (Phrase.ofChars [':', ' '] ++ (written indent depth v ++ rest))) =
      .ok (before ++ [(name, v)], tail) := by
  rw [members_value read enough ends, next, Entries.insert_of_not_mem absent]
  rfl

theorem members_next (read : ReadsBack room v)
    (enough : 2 * (written indent depth v).length ≤ fuel) (ends : EndsScalar rest)
    (absent : name ∉ before.map Prod.fst) (next : skipSpace rest = .char ',' :: tail) :
    members (fuel + 1) room before
        (quote name ++ (Phrase.ofChars [':', ' '] ++ (written indent depth v ++ rest))) =
      members fuel room (before ++ [(name, v)]) (skipSpace tail) := by
  rw [members_value read enough ends, next, Entries.insert_of_not_mem absent]
  rfl

/-- The members of an object are read up to its closing brace. -/
theorem members_writtenMembers {ms : Members} (each : ∀ m ∈ (name, v) :: ms, ReadsBack room m.2)
    (distinct : ((before ++ (name, v) :: ms).map Prod.fst).Nodup)
    (blank : ∀ c ∈ closing, isSpace c = true)
    (enough :
      2 * ((written indent depth v).length + (writtenMembers indent depth ms).length) < fuel) :
    members fuel room before (quote name ++ (Phrase.ofChars [':', ' '] ++ (written indent depth v ++
        (writtenMembers indent depth ms ++ (Phrase.ofChars closing ++ .char '}' :: rest))))) =
      .ok (before ++ (name, v) :: ms, rest) := by
  -- The names that were read move to the front, so those behind them stay new.
  induction ms generalizing before name v fuel with
  | nil =>
      have own : ReadsBack room v := each (name, v) List.mem_cons_self
      have absent := not_mem_of_nodup distinct
      obtain ⟨fuel, rfl⟩ := Nat.exists_eq_add_one_of_ne_zero (Nat.ne_zero_of_lt enough)
      rw [writtenMembers, List.nil_append]
      exact members_last own (by omega)
        (endsScalar_append blank (endsScalar_cons (.inr (by decide)))) absent
        (skipSpace_append blank (startsSolid_cons rfl))
  | cons m ms ih =>
      have own : ReadsBack room v := each (name, v) List.mem_cons_self
      have absent := not_mem_of_nodup distinct
      obtain ⟨fuel, rfl⟩ := Nat.exists_eq_add_one_of_ne_zero (Nat.ne_zero_of_lt enough)
      obtain ⟨gap, comma, blank_gap⟩ := exists_between indent depth
      have length : (writtenMembers indent depth (m :: ms)).length = gap.length + 1 +
          (quote m.1).length + 2 + (written indent depth m.2).length +
            (writtenMembers indent depth ms).length := by
        simp only [writtenMembers, comma, List.length_append, Phrase.length_ofChars,
          List.length_cons, List.length_nil]
      have split :
          writtenMembers indent depth (m :: ms) ++ (Phrase.ofChars closing ++ .char '}' :: rest) =
            .char ',' :: (Phrase.ofChars gap ++ (quote m.1 ++ (Phrase.ofChars [':', ' '] ++
              (written indent depth m.2 ++ (writtenMembers indent depth ms ++
                (Phrase.ofChars closing ++ .char '}' :: rest)))))) := by
        simp [writtenMembers, comma]
      have quoted : StartsSolid (quote m.1 ++ (Phrase.ofChars [':', ' '] ++
          (written indent depth m.2 ++
            (writtenMembers indent depth ms ++ (Phrase.ofChars closing ++ .char '}' :: rest))))) :=
        startsSolid_cons rfl
      rw [length] at enough
      rw [split, members_next own (by omega) (endsScalar_cons (.inr (by decide))) absent
        (skipSpace_of_startsSolid (startsSolid_cons rfl)), skipSpace_append blank_gap quoted,
        ih (fun other member => each other (List.mem_cons_of_mem _ member))
          (by simpa using distinct) (by omega)]
      simp

end Members

/-! ### Whole documents -/

theorem value_bracket {c : Char} {front : List Char} {body : Phrase}
    (blank : ∀ c ∈ front, isSpace c = true) (first : Sign.char c ∈ body.head?)
    (starts : StartsValue c) :
    value (fuel + 1) (room + 1) (.char '[' :: (Phrase.ofChars front ++ body)) =
      (items fuel room body).map fun (xs, tail) => (.arr xs, tail) := by
  have other : c ≠ ']' := starts.ne rfl (by decide) (by decide)
  cases body with
  | nil => cases first
  | cons d body =>
      cases first
      rw [value, skipSpace_append blank (startsSolid_cons starts.isSpace)]
      simp [other]

theorem value_brace {front : List Char} {body : Phrase} (blank : ∀ c ∈ front, isSpace c = true) :
    value (fuel + 1) (room + 1) (.char '{' :: (Phrase.ofChars front ++ .char '"' :: body)) =
      (members fuel room [] (.char '"' :: body)).map fun (ms, tail) => (.obj ms, tail) := by
  rw [value, skipSpace_append blank (startsSolid_cons rfl)]
  rfl

theorem readsBack_arr {xs : List Json} (each : ∀ x ∈ xs, ReadsBack room x) :
    ReadsBack (room + 1) (.arr xs) := by
  intro indent depth fuel rest enough ends
  cases xs with
  | nil =>
      obtain ⟨fuel, rfl⟩ := Nat.exists_eq_add_of_le' (Nat.le_trans (by decide : 1 ≤ 4) enough)
      rfl
  | cons x xs =>
      have text : written indent depth (.arr (x :: xs)) ++ rest =
          .char '[' :: (Phrase.ofChars (lineStart indent (depth + 1)) ++
            (written indent (depth + 1) x ++ (writtenItems indent (depth + 1) xs ++
              (Phrase.ofChars (lineStart indent depth) ++ .char ']' :: rest)))) := by
        simp [written]
      have length : (written indent depth (.arr (x :: xs))).length =
          (lineStart indent (depth + 1)).length + (written indent (depth + 1) x).length +
            (writtenItems indent (depth + 1) xs).length + (lineStart indent depth).length + 2 := by
        simp [written]
        omega
      rw [length] at enough
      obtain ⟨fuel, rfl⟩ := Nat.exists_eq_add_of_le' (Nat.le_trans (by omega : 1 ≤ _) enough)
      obtain ⟨c, first, starts⟩ := startsValue_written indent (depth + 1) x
      have first' : Sign.char c ∈ (written indent (depth + 1) x ++
          (writtenItems indent (depth + 1) xs ++
            (Phrase.ofChars (lineStart indent depth) ++ .char ']' :: rest))).head? := by
        rw [List.head?_append, Option.mem_def.mp first]
        rfl
      rw [text, value_bracket (lineStart_blank indent (depth + 1)) first' starts,
        items_writtenItems each (lineStart_blank indent depth) (by omega)]
      rfl

theorem readsBack_obj {ms : Members} (distinct : (ms.map Prod.fst).Nodup)
    (each : ∀ m ∈ ms, ReadsBack room m.2) : ReadsBack (room + 1) (.obj ms) := by
  intro indent depth fuel rest enough ends
  cases ms with
  | nil =>
      obtain ⟨fuel, rfl⟩ := Nat.exists_eq_add_of_le' (Nat.le_trans (by decide : 1 ≤ 4) enough)
      rfl
  | cons m ms =>
      obtain ⟨name, v⟩ := m
      have text : written indent depth (.obj ((name, v) :: ms)) ++ rest =
          .char '{' :: (Phrase.ofChars (lineStart indent (depth + 1)) ++ (quote name ++
            (Phrase.ofChars [':', ' '] ++ (written indent (depth + 1) v ++
              (writtenMembers indent (depth + 1) ms ++
                (Phrase.ofChars (lineStart indent depth) ++ .char '}' :: rest)))))) := by
        simp [written]
      have length : (written indent depth (.obj ((name, v) :: ms))).length =
          (lineStart indent (depth + 1)).length + (quote name).length + 2 +
            (written indent (depth + 1) v).length + (writtenMembers indent (depth + 1) ms).length +
              (lineStart indent depth).length + 2 := by
        simp [written]
        omega
      rw [length] at enough
      obtain ⟨fuel, rfl⟩ := Nat.exists_eq_add_of_le' (Nat.le_trans (by omega : 1 ≤ _) enough)
      have read := @members_writtenMembers _ room fuel (depth + 1) indent
        (lineStart indent depth) rest [] name v ms each distinct (lineStart_blank indent depth) (by omega)
      have quoted : quote name = .char '"' :: (name.flatMap stringSign ++ [.char '"']) := rfl
      rw [quoted, List.cons_append] at read
      rw [text, quoted, List.cons_append, value_brace (lineStart_blank indent (depth + 1)), read]
      rfl

end Trees

/-- A plain value is read as itself where its levels are left and its digits are allowed. -/
theorem IsPlain.readsBack {v : Json} (plain : IsPlain v) {room : Nat} (levels : v.depth ≤ room)
    (digits : Platform.Allows v.mostDigits) : ReadsBack room v := by
  match v with
  | .null =>
      exact .scalar (fun _ _ => rfl) ⟨'n', rfl, .inr (by decide)⟩ fun _ =>
        scalar_ofChars (List.all_eq_true.mp (by decide)) rfl rfl
  | .bool false =>
      exact .scalar (fun _ _ => rfl) ⟨'f', rfl, .inr (by decide)⟩ fun _ =>
        scalar_ofChars (List.all_eq_true.mp (by decide)) rfl rfl
  | .bool true =>
      exact .scalar (fun _ _ => rfl) ⟨'t', rfl, .inr (by decide)⟩ fun _ =>
        scalar_ofChars (List.all_eq_true.mp (by decide)) rfl rfl
  | .int n =>
      exact .scalar (fun _ _ => rfl) (startsScalar_toString n) fun _ => scalar_int digits
  | .float x =>
      exact .scalar (fun _ _ => rfl) (startsScalar_floatChars x) fun _ =>
        scalar_floatChars (plain.defined x .self)
  | .str s => exact .str s
  | .arr items =>
      obtain ⟨room, rfl⟩ := Nat.exists_eq_add_of_le' (Nat.le_of_add_left_le levels)
      rw [depth, Nat.add_le_add_iff_right, depthOfItems_le_iff] at levels
      rw [mostDigits, allows_mostDigitsOfItems_iff] at digits
      exact readsBack_arr fun x member =>
        IsPlain.readsBack (plain.of_within (.item member .self)) (levels x member)
          (digits x member)
  | .obj members =>
      obtain ⟨room, rfl⟩ := Nat.exists_eq_add_of_le' (Nat.le_of_add_left_le levels)
      rw [depth, Nat.add_le_add_iff_right, depthOfMembers_le_iff] at levels
      rw [mostDigits, allows_mostDigitsOfMembers_iff] at digits
      exact readsBack_obj (plain.distinct members .self) fun m member =>
        IsPlain.readsBack (plain.of_within (.member member .self)) (levels m member)
          (digits m member)
termination_by sizeOf v
decreasing_by
  · have smaller := List.sizeOf_lt_of_mem member
    simp only [Json.arr.sizeOf_spec]
    omega
  · have smaller := List.sizeOf_lt_of_mem member
    obtain ⟨name, w⟩ := m
    simp only [Json.obj.sizeOf_spec, Prod.mk.sizeOf_spec] at smaller ⊢
    omega

/-- A plain document that is written is read as itself, with blanks behind it. -/
theorem readWithin_render {v : Json} (plain : IsPlain v) {room : Nat} (levels : v.depth ≤ room)
    (digits : Platform.Allows v.mostDigits) (indent : Option Nat) {closing : List Char}
    (blank : ∀ c ∈ closing, isSpace c = true) :
    readWithin room (v.render indent ++ Phrase.ofChars closing) = .ok v := by
  have ends : EndsScalar (Phrase.ofChars closing) := by
    have behind := @endsScalar_append closing [] blank (by simp [EndsScalar])
    rwa [List.append_nil] at behind
  have nothing : skipSpace (Phrase.ofChars closing) = [] := by
    have behind := @skipSpace_append closing [] blank (by simp [StartsSolid])
    rwa [List.append_nil] at behind
  have read := plain.readsBack levels digits indent 0
    (2 * (written indent 0 v ++ Phrase.ofChars closing).length + 2) (Phrase.ofChars closing)
    (by rw [List.length_append]; omega) ends
  rw [render, readWithin]
  dsimp only
  rw [skipSpace_of_startsSolid (startsSolid_written indent 0 v _), read]
  dsimp only [bind, Except.bind]
  rw [nothing]
  rfl

/-- The text of a plain document is read as the document, if its levels are left. -/
theorem read_render {v : Json} (plain : IsPlain v) (levels : v.depth ≤ Platform.jsonLevels)
    (digits : Platform.Allows v.mostDigits) {indent : Option Nat} {text : String}
    (written : (text : Phrase) = v.render indent ++ Phrase.ofString "\n") :
    Json.read text = .ok v := by
  have blank : ∀ c ∈ "\n".toList, isSpace c = true := by simp [isSpace]
  have body : readPhrase text = .ok v := by
    rw [readPhrase, written]
    exact readWithin_render plain levels digits indent blank
  obtain ⟨c, first, starts⟩ := startsValue_written indent 0 v
  have noMark : c ≠ '\uFEFF' := starts.ne rfl (by decide) (by decide)
  unfold Json.read
  dsimp only
  split
  · rename_i mark
    have head := congrArg List.head? (written.symm.trans mark)
    rw [render, List.head?_append, Option.mem_def.mp first] at head
    exact absurd (Sign.char.inj (Option.some.inj head)) noMark
  · rw [body]
    rfl

end Bazaar.Json
