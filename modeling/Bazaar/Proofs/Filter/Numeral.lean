import Bazaar.Query.Filter

/-!
# Numerals in filters

A numeral has a sign if it is negative, digits, and then perhaps a fraction and an exponent.  Every
number that is not infinite or undefined stands in a filter as a numeral.
-/

namespace Bazaar.Filter

/-! ## Numerals -/

/-- Whether a text is made of digits, at least one. -/
def isDigits (cs : List Char) : Bool :=
  !cs.isEmpty && cs.all Char.isDigit

/-- Whether a text is empty or an exponent. -/
def isExponent : List Char → Bool
  | [] => true
  | 'e' :: '+' :: digits => isDigits digits
  | 'e' :: '-' :: digits => isDigits digits
  | _ => false

/-- Whether a text may follow the digits before the point. -/
def isFraction : List Char → Bool
  | '.' :: cs => isDigits (cs.takeWhile Char.isDigit) && isExponent (cs.dropWhile Char.isDigit)
  | cs => isExponent cs

/-- Whether a text is a numeral without a sign. -/
def isUnsigned (cs : List Char) : Bool :=
  isDigits (cs.takeWhile Char.isDigit) && isFraction (cs.dropWhile Char.isDigit)

/-- Whether a text is a numeral. -/
def isNumeral : List Char → Bool
  | '-' :: cs => isUnsigned cs
  | cs => isUnsigned cs

/-- The characters that numerals are made of. -/
def isNumeralChar (c : Char) : Bool :=
  c.isDigit || ['-', '+', '.', 'e'].contains c

theorem isDigits_iff {cs : List Char} :
    isDigits cs = true ↔ cs ≠ [] ∧ ∀ c ∈ cs, c.isDigit = true := by
  simp [isDigits]

theorem isDigits_append {cs ds : List Char} (first : isDigits cs = true)
    (rest : ∀ d ∈ ds, d.isDigit = true) : isDigits (cs ++ ds) = true := by
  rw [isDigits_iff] at first ⊢
  refine ⟨by simp [first.1], ?_⟩
  intro c member
  rcases List.mem_append.mp member with inFirst | inRest
  · exact first.2 c inFirst
  · exact rest c inRest

/-- A run of characters of one kind ends where a text goes on with another. -/
theorem run_append {kind : Char → Bool} {cs rest : List Char} (run : ∀ c ∈ cs, kind c = true)
    (behind : ∀ c ∈ rest.head?, kind c = false) :
    (cs ++ rest).takeWhile kind = cs ∧ (cs ++ rest).dropWhile kind = rest := by
  rw [List.takeWhile_append_of_pos run, List.dropWhile_append_of_pos run]
  cases rest with
  | nil => simp
  | cons c rest => simp [behind c rfl]

theorem isUnsigned_append {digits rest : List Char} (isDigits : isDigits digits = true)
    (behind : ∀ c ∈ rest.head?, c.isDigit = false) :
    isUnsigned (digits ++ rest) = isFraction rest := by
  obtain ⟨taken, left⟩ := run_append (isDigits_iff.mp isDigits).2 behind
  rw [isUnsigned, taken, left, isDigits, Bool.true_and]

theorem isUnsigned_of_isDigits {digits : List Char} (isDigits : isDigits digits = true) :
    isUnsigned digits = true := by
  have whole : isUnsigned (digits ++ []) = isFraction [] := isUnsigned_append isDigits (by simp)
  rwa [List.append_nil] at whole

theorem isFraction_append {digits rest : List Char} (isDigits : isDigits digits = true)
    (behind : ∀ c ∈ rest.head?, c.isDigit = false) :
    isFraction ('.' :: (digits ++ rest)) = isExponent rest := by
  obtain ⟨taken, left⟩ := run_append (isDigits_iff.mp isDigits).2 behind
  rw [isFraction, taken, left, isDigits, Bool.true_and]

theorem isFraction_of_isDigits {digits : List Char} (isDigits : isDigits digits = true) :
    isFraction ('.' :: digits) = true := by
  have whole : isFraction ('.' :: (digits ++ [])) = isExponent [] :=
    isFraction_append isDigits (by simp)
  rwa [List.append_nil] at whole

theorem isNumeral_of_isUnsigned {cs : List Char} (unsigned : isUnsigned cs = true) :
    isNumeral cs = true := by
  unfold isNumeral
  split
  · simp [isUnsigned, isDigits] at unsigned
  · exact unsigned

/-! ## The characters of a numeral -/

theorem isNumeralChar_of_isDigits {cs : List Char} (digits : isDigits cs = true) :
    ∀ c ∈ cs, isNumeralChar c = true := by
  intro c member
  rw [isNumeralChar, (isDigits_iff.mp digits).2 c member, Bool.true_or]

theorem isNumeralChar_of_isExponent {cs : List Char} (exponent : isExponent cs = true) :
    ∀ c ∈ cs, isNumeralChar c = true := by
  unfold isExponent at exponent
  split at exponent
  · simp
  · simpa [isNumeralChar] using isNumeralChar_of_isDigits exponent
  · simpa [isNumeralChar] using isNumeralChar_of_isDigits exponent
  · cases exponent

/-- Digits and what follows them are numeral characters if both are. -/
theorem isNumeralChar_of_run {cs : List Char}
    (digits : isDigits (cs.takeWhile Char.isDigit) = true)
    (behind : ∀ c ∈ cs.dropWhile Char.isDigit, isNumeralChar c = true) :
    ∀ c ∈ cs, isNumeralChar c = true := by
  intro c member
  rw [← List.takeWhile_append_dropWhile (p := Char.isDigit) (l := cs)] at member
  rcases List.mem_append.mp member with digit | rest
  · exact isNumeralChar_of_isDigits digits c digit
  · exact behind c rest

theorem isNumeralChar_of_isFraction {cs : List Char} (fraction : isFraction cs = true) :
    ∀ c ∈ cs, isNumeralChar c = true := by
  unfold isFraction at fraction
  split at fraction
  · rw [Bool.and_eq_true] at fraction
    rw [List.forall_mem_cons]
    exact ⟨rfl, isNumeralChar_of_run fraction.1 (isNumeralChar_of_isExponent fraction.2)⟩
  · exact isNumeralChar_of_isExponent fraction

theorem isNumeralChar_of_isUnsigned {cs : List Char} (unsigned : isUnsigned cs = true) :
    ∀ c ∈ cs, isNumeralChar c = true := by
  rw [isUnsigned, Bool.and_eq_true] at unsigned
  exact isNumeralChar_of_run unsigned.1 (isNumeralChar_of_isFraction unsigned.2)

theorem isNumeralChar_of_isNumeral {cs : List Char} (numeral : isNumeral cs = true) :
    ∀ c ∈ cs, isNumeralChar c = true := by
  unfold isNumeral at numeral
  split at numeral
  · rw [List.forall_mem_cons]
    exact ⟨rfl, isNumeralChar_of_isUnsigned numeral⟩
  · exact isNumeralChar_of_isUnsigned numeral

/-! ## Numbers as numerals -/

theorem isDigits_digitsInBase (n : Nat) : isDigits (Text.digitsInBase 10 n) = true :=
  isDigits_iff.mpr
    ⟨Nat.toDigits_ne_nil, fun _ => Nat.isDigit_of_mem_toDigits (by decide) (by decide)⟩

theorem isDigits_replicate (n : Nat) : ∀ c ∈ List.replicate n '0', c.isDigit = true := by
  intro c member
  rw [List.eq_of_mem_replicate member]
  rfl

theorem isDigits_zeros_append {count : Nat} {digits : List Char} (some_digit : digits ≠ [])
    (all_digits : ∀ c ∈ digits, c.isDigit = true) :
    isDigits (List.replicate count '0' ++ digits) = true :=
  isDigits_iff.mpr ⟨by simp [some_digit], fun c member =>
    (List.mem_append.mp member).elim (isDigits_replicate _ c) (all_digits c)⟩

theorem isUnsigned_repr (n : Nat) : isUnsigned n.repr.toList = true := by
  rw [Nat.toList_repr]
  exact isUnsigned_of_isDigits (isDigits_digitsInBase n)

theorem isNumeral_toString_int (n : Int) : isNumeral (toString n).toList = true := by
  rw [Int.toString_eq_repr, Int.repr_eq_if]
  split
  · exact isNumeral_of_isUnsigned (isUnsigned_repr n.toNat)
  · rw [String.toList_append]
    exact isUnsigned_repr (-n).toNat

theorem isUnsigned_positional {digits : List Char} (isDigits : isDigits digits = true)
    (before : Int) : isUnsigned (Decimal.positional digits before) = true := by
  obtain ⟨some_digit, all_digits⟩ := isDigits_iff.mp isDigits
  unfold Decimal.positional
  split
  · rw [List.cons_append, List.cons_append, ← List.singleton_append,
      isUnsigned_append rfl (by simp [Char.isDigit])]
    exact isFraction_of_isDigits (isDigits_zeros_append some_digit all_digits)
  · split
    · rw [isUnsigned_append (isDigits_append isDigits (isDigits_replicate _))
        (by simp [Char.isDigit])]
      rfl
    · rename_i positive inside
      have taken : Filter.isDigits (digits.take before.toNat) = true :=
        isDigits_iff.mpr ⟨by simp [some_digit]; omega, fun c member =>
          all_digits c (List.mem_of_mem_take member)⟩
      have left : Filter.isDigits (digits.drop before.toNat) = true :=
        isDigits_iff.mpr ⟨by simp; omega, fun c member =>
          all_digits c (List.mem_of_mem_drop member)⟩
      rw [isUnsigned_append taken (by simp [Char.isDigit])]
      exact isFraction_of_isDigits left

theorem isDigits_padZeros (width n : Nat) :
    isDigits (Text.padZeros width (Text.digitsInBase 10 n)) = true := by
  obtain ⟨some_digit, all_digits⟩ := isDigits_iff.mp (isDigits_digitsInBase n)
  exact isDigits_zeros_append some_digit all_digits

theorem isUnsigned_scientific {digits : List Char} (isDigits : isDigits digits = true)
    (exponent : Int) : isUnsigned (Decimal.scientific digits exponent) = true := by
  have ends : isExponent ('e' :: (if exponent < 0 then '-' else '+') ::
      Text.padZeros 2 (Text.digitsInBase 10 exponent.natAbs)) = true := by
    split <;> exact isDigits_padZeros 2 _
  match digits, isDigits with
  | [d], isDigits =>
      rw [Decimal.scientific, isUnsigned_append isDigits (by simp [Char.isDigit])]
      exact ends
  | d :: d' :: rest, isDigits =>
      obtain ⟨-, all_digits⟩ := isDigits_iff.mp isDigits
      have first : Filter.isDigits [d] = true := by
        simp [isDigits_iff, all_digits]
      have others : Filter.isDigits (d' :: rest) = true :=
        isDigits_iff.mpr ⟨by simp, fun c member => all_digits c (List.mem_cons_of_mem d member)⟩
      show Filter.isUnsigned ([d] ++ '.' :: ((d' :: rest) ++ _)) = true
      rw [isUnsigned_append first (by simp [Char.isDigit]),
        isFraction_append others (by simp [Char.isDigit])]
      exact ends

theorem isUnsigned_magnitudeText (mantissa : Nat) (exponent : Int) :
    isUnsigned (Decimal.magnitudeText mantissa exponent) = true := by
  unfold Decimal.magnitudeText
  split
  · rfl
  · have digits := isDigits_digitsInBase (Decimal.shortest mantissa exponent).1
    simp only
    split
    · exact isUnsigned_positional digits _
    · exact isUnsigned_scientific digits _

theorem isNumeral_text {x : Float} (finite : Decimal.isFinite x = true) :
    isNumeral (Decimal.text x).toList = true := by
  unfold Decimal.isFinite at finite
  unfold Decimal.text
  split at finite
  · rename_i negative mantissa exponent reading
    rw [reading]
    simp only [String.toList_ofList]
    cases negative with
    | false => exact isNumeral_of_isUnsigned (isUnsigned_magnitudeText mantissa exponent)
    | true => exact isUnsigned_magnitudeText mantissa exponent
  · cases finite

/-- A number that is finite stands in a filter as a numeral. -/
theorem isNumeral_numberText {n : Number} (finite : n.isFinite = .ok true) :
    isNumeral (numberText n).toList = true := by
  cases n with
  | int n => exact isNumeral_toString_int n
  | float x =>
      have isFinite : Decimal.isFinite x = true := by
        simpa [Number.isFinite, Number.toFloat, Except.map] using finite
      unfold numberText
      simp only
      split
      · split
        · exact isNumeral_toString_int _
        · exact isNumeral_text isFinite
      · exact isNumeral_text isFinite

end Bazaar.Filter
