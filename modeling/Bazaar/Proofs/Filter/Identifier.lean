import Bazaar.Proofs.Filter.Reader
import Bazaar.Proofs.Filter.Writing

/-!
# What a lookup by identifiers says

The filter of a lookup is read as terms of one field with ` OR ` between them.  The reading gives
back the identifiers exactly if none of them ends with a backslash: such a one takes the quote that
should close it, and what it says then depends on the identifiers behind it.
-/

namespace Bazaar.Filter

/-! ## Reading a lookup -/

/-- A term of a field, whatever the field is called. -/
def TermOf (field : String) (text : String) (w : List Char) : Prop :=
  ∃ v, w = field.toList ++ ':' :: '"' :: v ∧ Literal text.toList v

/-- Reads a term of a field. -/
def readTermOf (field : String) (w : List Char) : Option (String × List Char) :=
  (Text.after? (field.toList ++ [':', '"']) w).bind fun rest =>
    (readLiteral rest).map fun (s, rest) => (String.ofList s, rest)

/-- Reads a lookup in a field; no identifier is the empty text. -/
def readIds (field : String) (s : String) : Option (List String) :=
  if s.isEmpty then some []
  else
    match readSeparated (readTermOf field) " OR ".toList s.toList with
    | some (ids, []) => some ids
    | _ => none

theorem readTermOf_reads (field : String) :
    Reads (readTermOf field) (TermOf field) fun _ => True where
  sound := by
    intro w text rest taken
    obtain ⟨behind, found, read⟩ := Option.bind_eq_some_iff.mp taken
    obtain ⟨⟨s, rest'⟩, readText, same⟩ := Option.map_eq_some_iff.mp read
    cases same
    obtain ⟨v, rfl, literal⟩ := readLiteral_reads.sound readText
    rw [Text.after?_eq_some_iff] at found
    refine ⟨field.toList ++ ':' :: '"' :: v, ?_, v, rfl, by rwa [String.toList_ofList]⟩
    simp [found]
  complete := by
    rintro text u rest ⟨v, rfl, literal⟩ -
    have readText : readLiteral (v ++ rest) = some (text.toList, rest) :=
      readLiteral_reads.complete literal trivial
    have spelled : field.toList ++ ':' :: '"' :: v ++ rest =
        (field.toList ++ [':', '"']) ++ (v ++ rest) := by simp
    rw [readTermOf, spelled, Text.after?_append]
    simp [readText]

/-- The reader accepts terms with separators between them, and nothing else. -/
theorem readIds_eq_some_iff {field s : String} {ids : List String} :
    readIds field s = some ids ↔
      (s = "" ∧ ids = []) ∨ Separated (TermOf field) " OR ".toList ids s.toList := by
  have some_char {text : String} {u : List Char} (term : TermOf field text u) : u ≠ [] := by
    obtain ⟨v, rfl, -⟩ := term
    simp
  unfold readIds
  constructor
  · intro taken
    split at taken
    · rename_i empty
      cases taken
      exact .inl ⟨String.isEmpty_iff.mp empty, rfl⟩
    · split at taken
      · rename_i read
        cases taken
        obtain ⟨u, same, separated⟩ := Separated.of_readSeparated (readTermOf_reads field) read
        rw [List.append_nil] at same
        exact .inr (same ▸ separated)
      · cases taken
  · rintro (⟨rfl, rfl⟩ | separated)
    · rfl
    · have read : readSeparated (readTermOf field) " OR ".toList (s.toList ++ []) =
          some (ids, []) :=
        separated.readSeparated (readTermOf_reads field) (by simp) (fun _ => trivial) trivial rfl
      have not_empty : ¬s.isEmpty = true := by
        rw [String.isEmpty_iff, ← String.toList_eq_nil_iff]
        exact separated.ne_nil some_char
      rw [List.append_nil] at read
      rw [if_neg not_empty, read]

/-! ## Writing a lookup -/

/-- A text that is read up to its closing quote does not end with a backslash. -/
theorem Literal.closes {s w : List Char} (literal : Literal s w) : s.getLast? ≠ some '\\' := by
  induction literal with
  | close => simp
  | @quote s w literal ih =>
      cases s with
      | nil => simp
      | cons d s => simpa using ih
  | @other c s w plain single literal ih =>
      cases s with
      | nil =>
          cases literal
          rw [List.getLast?_singleton]
          rintro isBackslash
          exact single (Option.some_inj.mp isBackslash) rfl
      | cons d s => simpa using ih

theorem termOf_termChars {field text : String} (closes : Closes text) :
    TermOf field text (termChars field text) :=
  ⟨_, rfl, literal_quoted closes⟩

theorem closes_of_separated {field : String} {ids : List String} {w : List Char}
    (separated : Separated (TermOf field) " OR ".toList ids w) : ∀ id ∈ ids, Closes id := by
  induction separated with
  | one term =>
      obtain ⟨v, -, literal⟩ := term
      simpa [Closes] using literal.closes
  | more term others ih =>
      obtain ⟨v, -, literal⟩ := term
      exact List.forall_mem_cons.mpr ⟨literal.closes, ih⟩

/-- A lookup is read as exactly its identifiers, in order, if and only if none of them ends with a
backslash. -/
theorem readIds_anyId_eq_some_iff (field : String) (ids : List String) :
    readIds field (anyId field ids) = some ids ↔
      ∀ id ∈ ids, id.toList.getLast? ≠ some '\\' := by
  rw [readIds_eq_some_iff]
  constructor
  · rintro (⟨-, rfl⟩ | separated)
    · simp
    · exact closes_of_separated separated
  · intro closes
    cases ids with
    | nil => exact .inl ⟨rfl, rfl⟩
    | cons first others =>
        have written : Separated (TermOf field) " OR ".toList ((first :: others).map fun t => t)
            (alternatives field (first :: others)) :=
          separated_joinWith (List.cons_ne_nil first others) fun t member =>
            termOf_termChars (closes t member)
        refine .inr ?_
        rwa [List.map_id', ← String.toList_ofList (l := alternatives field (first :: others))]
          at written

end Bazaar.Filter
