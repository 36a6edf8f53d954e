import Bazaar.Proofs.Filter.Grammar
import Bazaar.Proofs.Text

/-!
# The reader of filters against the grammar

Each part of the reader takes exactly what the grammar derives, as long as what follows cannot be
taken for more of it.  A whole filter therefore has at most one reading.
-/

namespace Bazaar.Filter

/-- A reader of a kind of pieces: what it takes is a piece, and it takes a piece whole unless the
text goes on in a way that it would take for more. -/
structure Reads {β : Type} (read : List Char → Option (β × List Char))
    (piece : β → List Char → Prop) (ends : List Char → Prop) : Prop where
  sound : ∀ {w b rest}, read w = some (b, rest) → ∃ u, w = u ++ rest ∧ piece b u
  complete : ∀ {b u rest}, piece b u → ends rest → read (u ++ rest) = some (b, rest)

/-! ## Texts in quotes -/

theorem Literal.ne_nil {s w : List Char} (literal : Literal s w) : w ≠ [] := by
  cases literal <;> simp

theorem readLiteral_other {c : Char} {w : List Char} (plain : c ≠ '"')
    (single : c = '\\' → w.head? ≠ some '"') :
    readLiteral (c :: w) = (readLiteral w).map fun (s, rest) => (c :: s, rest) := by
  rw [readLiteral]
  · rintro rest rfl rfl
    exact single rfl rfl
  · exact plain

theorem readLiteral_reads : Reads readLiteral Literal fun _ => True where
  sound := by
    intro w s rest taken
    fun_induction readLiteral w generalizing s with
    | case1 => cases taken
    | case2 w ih =>
        obtain ⟨⟨s', rest'⟩, read, same⟩ := Option.map_eq_some_iff.mp taken
        cases same
        obtain ⟨u, rfl, literal⟩ := ih read
        exact ⟨_, rfl, literal.quote⟩
    | case3 w =>
        cases taken
        exact ⟨_, rfl, .close⟩
    | case4 c w notQuoted plain ih =>
        obtain ⟨⟨s', rest'⟩, read, same⟩ := Option.map_eq_some_iff.mp taken
        cases same
        obtain ⟨u, rfl, literal⟩ := ih read
        refine ⟨_, rfl, literal.other plain ?_⟩
        rintro rfl quote
        obtain ⟨behind, rfl⟩ := List.head?_eq_some_iff.mp quote
        exact notQuoted _ rfl rfl
  complete := by
    intro s w rest literal _
    induction literal with
    | close => rfl
    | quote _ ih => rw [List.cons_append, List.cons_append, readLiteral, ih]; rfl
    | @other c s w plain single literal ih =>
        have single' : c = '\\' → (w ++ rest).head? ≠ some '"' := by
          cases w with
          | nil => exact absurd rfl literal.ne_nil
          | cons d w => exact single
        rw [List.cons_append, readLiteral_other plain single', ih]
        rfl

/-! ## Field names and numerals -/

theorem readField_reads : Reads readField (fun field u => IsWord field ∧ u = field.toList)
    fun rest => ∀ c ∈ rest.head?, isWordChar c = false where
  sound := by
    intro w field rest taken
    unfold readField at taken
    obtain ⟨some_char, same⟩ := Option.ite_none_left_eq_some.mp taken
    cases same
    refine ⟨_, List.takeWhile_append_dropWhile.symm, ⟨?_, ?_⟩, String.toList_ofList.symm⟩
    · simpa using some_char
    · rw [String.toList_ofList]
      exact List.all_eq_true.mp List.all_takeWhile
  complete := by
    rintro field u rest ⟨⟨some_char, word⟩, rfl⟩ ends
    obtain ⟨taken, left⟩ := run_append word ends
    unfold readField
    simp [taken, left, some_char]

theorem readNumber_reads : Reads readNumber (fun n u => isNumeral n.toList = true ∧ u = n.toList)
    fun rest => ∀ c ∈ rest.head?, isNumeralChar c = false where
  sound := by
    intro w n rest taken
    unfold readNumber at taken
    obtain ⟨numeral, same⟩ := Option.ite_none_right_eq_some.mp taken
    cases same
    refine ⟨_, List.takeWhile_append_dropWhile.symm, ?_, String.toList_ofList.symm⟩
    rwa [String.toList_ofList]
  complete := by
    rintro n u rest ⟨numeral, rfl⟩ ends
    obtain ⟨taken, left⟩ := run_append (isNumeralChar_of_isNumeral numeral) ends
    unfold readNumber
    simp [taken, left, numeral]

/-! ## Terms -/

theorem readTerm_reads : Reads readTerm Term fun _ => True where
  sound := by
    intro w term rest taken
    obtain ⟨⟨field, behind⟩, readName, read⟩ := Option.bind_eq_some_iff.mp taken
    obtain ⟨u, rfl, word, rfl⟩ := readField_reads.sound readName
    simp only at read
    split at read
    · obtain ⟨⟨s, rest'⟩, readText, same⟩ := Option.map_eq_some_iff.mp read
      cases same
      obtain ⟨v, rfl, literal⟩ := readLiteral_reads.sound readText
      refine ⟨_, ?_, .quoted word (by rwa [String.toList_ofList])⟩
      simp
    · cases read
  complete := by
    intro term u rest term' _
    cases term' with
    | @quoted field text w word literal =>
        have readName := readField_reads.complete ⟨word, rfl⟩
          (show ∀ c ∈ (':' :: '"' :: (w ++ rest)).head?, isWordChar c = false by
            simp [isWordChar])
        have readText : readLiteral (w ++ rest) = some (text.toList, rest) :=
          readLiteral_reads.complete literal trivial
        rw [List.append_assoc, List.cons_append, List.cons_append]
        simp [readTerm, readName, readText]

/-! ## Pieces with separators -/

theorem Separated.of_readSeparated {β : Type} {read : List Char → Option (β × List Char)}
    {piece : β → List Char → Prop} {ends : List Char → Prop} {separator : List Char}
    (reads : Reads read piece ends) {w rest : List Char} {bs : List β}
    (taken : readSeparated read separator w = some (bs, rest)) :
    ∃ u, w = u ++ rest ∧ Separated piece separator bs u := by
  fun_induction readSeparated read separator w generalizing bs with
  | case1 w failed => cases taken
  | case2 w b rest' readFirst last =>
      cases taken
      obtain ⟨u, rfl, first⟩ := reads.sound readFirst
      exact ⟨u, rfl, .one first⟩
  | case3 w b rest' readFirst next found shorter ih =>
      obtain ⟨⟨bs', rest''⟩, readOthers, same⟩ := Option.map_eq_some_iff.mp taken
      cases same
      obtain ⟨u, rfl, first⟩ := reads.sound readFirst
      obtain ⟨v, rfl, others⟩ := ih readOthers
      rw [Text.after?_eq_some_iff] at found
      exact ⟨u ++ separator ++ v, by simp [found], .more first others⟩
  | case4 w b rest' readFirst next found notShorter => cases taken

theorem Separated.readSeparated {β : Type} {read : List Char → Option (β × List Char)}
    {piece : β → List Char → Prop} {ends : List Char → Prop} {separator : List Char}
    (reads : Reads read piece ends) (some_char : separator ≠ [])
    (separates : ∀ v, ends (separator ++ v)) {bs : List β} {u rest : List Char}
    (separated : Separated piece separator bs u) (end_of_last : ends rest)
    (last : Text.after? separator rest = none) :
    readSeparated read separator (u ++ rest) = some (bs, rest) := by
  induction separated with
  | one first =>
      rw [Filter.readSeparated]
      simp only [reads.complete first end_of_last, last]
  | @more b bs w v first others ih =>
      have readFirst : read (w ++ (separator ++ (v ++ rest))) = _ :=
        reads.complete first (separates (v ++ rest))
      have shorter : (v ++ rest).length < (w ++ (separator ++ (v ++ rest))).length := by
        have positive := List.length_pos_iff.mpr some_char
        simp only [List.length_append]
        omega
      rw [List.append_assoc, List.append_assoc, Filter.readSeparated]
      simp only [readFirst, Text.after?_append, if_pos shorter, ih]
      rfl

/-! ## Clauses -/

theorem readClause_of_readField {field : String} {w rest : List Char}
    (readName : readField w = some (field, rest)) : readClause w = readCondition field rest := by
  unfold readClause
  split
  · cases readName
  · rw [readName, Option.bind_some]

theorem readCondition_sound {field : String} {w rest : List Char} {c : Clause}
    (word : IsWord field) (taken : readCondition field w = some (c, rest)) :
    ∃ u, w = u ++ rest ∧ c.Written (field.toList ++ u) := by
  unfold readCondition at taken
  split at taken
  · obtain ⟨⟨n, rest'⟩, read, same⟩ := Option.map_eq_some_iff.mp taken
    cases same
    obtain ⟨u, rfl, numeral, rfl⟩ := readNumber_reads.sound read
    exact ⟨" >= ".toList ++ n.toList, rfl, by simpa using Clause.Written.atLeast word numeral⟩
  · obtain ⟨⟨n, rest'⟩, read, same⟩ := Option.map_eq_some_iff.mp taken
    cases same
    obtain ⟨u, rfl, numeral, rfl⟩ := readNumber_reads.sound read
    exact ⟨" <= ".toList ++ n.toList, rfl, by simpa using Clause.Written.atMost word numeral⟩
  · cases taken
    exact ⟨":true".toList, rfl, .yes word⟩
  · cases taken
    exact ⟨":false".toList, rfl, .no word⟩
  · obtain ⟨⟨s, rest'⟩, read, same⟩ := Option.map_eq_some_iff.mp taken
    cases same
    obtain ⟨u, rfl, literal⟩ := readLiteral_reads.sound read
    exact ⟨':' :: '"' :: u, rfl, .text (.quoted word (by rwa [String.toList_ofList]))⟩
  · cases taken

theorem readField_complete {field : String} {rest : List Char} (word : IsWord field)
    (ends : ∀ c ∈ rest.head?, isWordChar c = false) :
    readClause (field.toList ++ rest) = readCondition field rest :=
  readClause_of_readField (readField_reads.complete ⟨word, rfl⟩ ends)

theorem readClause_reads : Reads readClause Clause.Written
    fun rest => ∀ c ∈ rest.head?, isNumeralChar c = false where
  sound := by
    intro w c rest taken
    unfold readClause at taken
    split at taken
    · split at taken
      · rename_i readTerms
        cases taken
        obtain ⟨u, same, separated⟩ := Separated.of_readSeparated readTerm_reads readTerms
        exact ⟨'(' :: u ++ [')'], by simp [same], .anyOf separated⟩
      · cases taken
    · obtain ⟨⟨field, behind⟩, readName, readRest⟩ := Option.bind_eq_some_iff.mp taken
      obtain ⟨u, rfl, word, rfl⟩ := readField_reads.sound readName
      obtain ⟨v, rfl, written⟩ := readCondition_sound word readRest
      exact ⟨field.toList ++ v, by simp, written⟩
  complete := by
    intro c u rest written ends
    cases written with
    | @atLeast field number word numeral =>
        have readRest : readNumber (number.toList ++ rest) = some (number, rest) :=
          readNumber_reads.complete ⟨numeral, rfl⟩ ends
        rw [List.append_assoc, List.append_assoc, readField_complete word (by simp [isWordChar])]
        simp [readCondition, readRest]
    | @atMost field number word numeral =>
        have readRest : readNumber (number.toList ++ rest) = some (number, rest) :=
          readNumber_reads.complete ⟨numeral, rfl⟩ ends
        rw [List.append_assoc, List.append_assoc, readField_complete word (by simp [isWordChar])]
        simp [readCondition, readRest]
    | @yes field word =>
        rw [List.append_assoc, readField_complete word (by simp [isWordChar])]
        rfl
    | @no field word =>
        rw [List.append_assoc, readField_complete word (by simp [isWordChar])]
        rfl
    | @text field wanted w term =>
        cases term with
        | @quoted _ _ w word literal =>
            have readText : readLiteral (w ++ rest) = some (wanted.toList, rest) :=
              readLiteral_reads.complete literal trivial
            rw [List.append_assoc, readField_complete word (by simp [isWordChar])]
            simp [readCondition, readText]
    | @anyOf terms w separated =>
        have readTerms : readSeparated readTerm " OR ".toList (w ++ ')' :: rest) =
            some (terms, ')' :: rest) :=
          separated.readSeparated readTerm_reads (by simp) (fun _ => trivial) trivial rfl
        rw [List.append_assoc, List.singleton_append, List.cons_append, readClause, readTerms]
        rfl

/-! ## Filters -/

theorem Clause.Written.ne_nil {c : Clause} {w : List Char} (written : c.Written w) : w ≠ [] := by
  cases written with
  | atLeast word numeral => simp [word.1]
  | atMost word numeral => simp [word.1]
  | yes word => simp [word.1]
  | no word => simp [word.1]
  | text term => cases term; simp
  | anyOf separated => simp

theorem Separated.ne_nil {β : Type} {piece : β → List Char → Prop} {separator : List Char}
    (some_char : ∀ {b u}, piece b u → u ≠ []) {bs : List β} {w : List Char}
    (separated : Separated piece separator bs w) : w ≠ [] := by
  cases separated with
  | one first => exact some_char first
  | more first others => simp [some_char first]

/-- The reader accepts exactly what the grammar derives, with what it says. -/
theorem parse_eq_some_iff {s : String} {cs : List Clause} :
    parse s = some cs ↔ Written cs s := by
  have separates : ∀ v, ∀ c ∈ (" AND ".toList ++ v).head?, isNumeralChar c = false := by
    simp [isNumeralChar]
  unfold parse
  constructor
  · intro taken
    split at taken
    · rename_i empty
      cases taken
      obtain rfl := String.isEmpty_iff.mp empty
      exact .none
    · split at taken
      · rename_i read
        cases taken
        obtain ⟨u, same, separated⟩ := Separated.of_readSeparated readClause_reads read
        rw [List.append_nil] at same
        exact .some (same ▸ separated)
      · cases taken
  · intro written
    cases written with
    | none => rfl
    | some separated =>
        have read : readSeparated readClause " AND ".toList (s.toList ++ []) = some (cs, []) :=
          separated.readSeparated readClause_reads (by simp) separates (by simp) rfl
        have some_char : ¬s.isEmpty = true := by
          rw [String.isEmpty_iff, ← String.toList_eq_nil_iff]
          exact separated.ne_nil Clause.Written.ne_nil
        rw [List.append_nil] at read
        rw [if_neg some_char, read]

/-- No text says two things. -/
theorem Written.unique {s : String} {cs ds : List Clause} (first : Written cs s)
    (second : Written ds s) : cs = ds := by
  rw [← parse_eq_some_iff] at first second
  exact Option.some_inj.mp (first.symm.trans second)

end Bazaar.Filter
