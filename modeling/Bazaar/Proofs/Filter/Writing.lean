import Bazaar.Proofs.Filter.Grammar

/-!
# Criteria in the grammar of filters

What a criterion is written as belongs to the grammar and says just that criterion, if its field is
a word, its number a numeral, and no text ends with a backslash.  A backslash at the end of a text
would take the closing quote.
-/

namespace Bazaar

/-- What a criterion says to a reader. -/
def Criterion.clause : Criterion → Filter.Clause
  | .bound field relation number => .bound field relation number
  | .flag field value => .flag field value
  | .text field wanted => .text field wanted
  | .anyOf field texts => .anyOf (texts.map fun t => (field, t))

namespace Filter

/-- Whether the quote behind a text closes it. -/
def Closes (s : String) : Prop :=
  s.toList.getLast? ≠ some '\\'

/-- Whether a criterion can be told from its written form. -/
def IsLegible : Criterion → Prop
  | .bound field _ number => IsWord field ∧ isNumeral number.toList = true
  | .flag field _ => IsWord field
  | .text field wanted => IsWord field ∧ Closes wanted
  | .anyOf field texts => IsWord field ∧ texts ≠ [] ∧ ∀ t ∈ texts, Closes t

/-! ## Texts -/

theorem head?_flatMap_escapedChar (s : List Char) (some_char : s ≠ []) :
    (s.flatMap escapedChar ++ ['"']).head? ≠ some '"' := by
  cases s with
  | nil => exact absurd rfl some_char
  | cons c s =>
      by_cases isQuote : c = '"' <;> simp [escapedChar, isQuote]

/-- A text is written so that it is read again, unless a backslash at its end takes the quote. -/
theorem literal_quoted {s : List Char} (closes : s.getLast? ≠ some '\\') :
    Literal s (s.flatMap escapedChar ++ ['"']) := by
  induction s with
  | nil => exact .close
  | cons c s ih =>
      have closes' : s.getLast? ≠ some '\\' := by
        cases s with
        | nil => simp
        | cons d s => simpa using closes
      by_cases isQuote : c = '"'
      · rw [isQuote]
        exact .quote (ih closes')
      · have single : c = '\\' → (s.flatMap escapedChar ++ ['"']).head? ≠ some '"' := by
          rintro rfl
          refine head?_flatMap_escapedChar s ?_
          rintro rfl
          exact closes rfl
        have written := Literal.other isQuote single (ih closes')
        simpa [escapedChar, isQuote] using written

theorem term_termChars {field text : String} (word : IsWord field) (closes : Closes text) :
    Term (field, text) (termChars field text) := by
  have written := Term.quoted word (literal_quoted closes)
  simpa [termChars, quotedChars] using written

theorem separated_joinWith {ι β : Type} {piece : β → List Char → Prop} {separator : List Char}
    {pieceOf : ι → β} {chars : ι → List Char} {items : List ι} (some_item : items ≠ [])
    (pieces : ∀ i ∈ items, piece (pieceOf i) (chars i)) :
    Separated piece separator (items.map pieceOf)
      (Text.joinWith separator (items.map chars)) := by
  induction items with
  | nil => exact absurd rfl some_item
  | cons i items ih =>
      have first := pieces i List.mem_cons_self
      cases items with
      | nil => exact .one first
      | cons j items =>
          exact .more first (ih (by simp) fun k member => pieces k (List.mem_cons_of_mem i member))

/-! ## Criteria -/

theorem IsLegible.written {c : Criterion} (legible : IsLegible c) :
    c.clause.Written c.chars := by
  cases c with
  | bound field relation number =>
      obtain ⟨word, numeral⟩ := legible
      cases relation with
      | atLeast => exact .atLeast word numeral
      | atMost => exact .atMost word numeral
  | flag field value =>
      cases value with
      | true => exact .yes legible
      | false => exact .no legible
  | text field wanted => exact .text (term_termChars legible.1 legible.2)
  | anyOf field texts =>
      obtain ⟨word, some_text, closes⟩ := legible
      exact .anyOf (separated_joinWith some_text fun t member =>
        term_termChars word (closes t member))

/-- Legible criteria make a filter that says just these criteria. -/
theorem written_render {cs : List Criterion} (legible : ∀ c ∈ cs, IsLegible c) :
    Written (cs.map Criterion.clause) (render cs) := by
  cases cs with
  | nil => exact .none
  | cons c cs =>
      have chars : (render (c :: cs)).toList =
          Text.joinWith " AND ".toList ((c :: cs).map Criterion.chars) := String.toList_ofList
      refine .some ?_
      rw [chars]
      exact separated_joinWith (by simp) fun c member => (legible c member).written

end Filter

end Bazaar
