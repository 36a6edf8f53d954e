import Bazaar.Proofs.Filter.Numeral
import Bazaar.Proofs.Text
import Mathlib.Algebra.Group.Nat.Defs

/-!
# Digits read back

A number in base ten, with or without zeros in front, is read as itself.
-/

namespace Bazaar.Text

open Bazaar.Filter (isDigits isDigits_iff isDigits_padZeros)

/-! ## Single digits -/

theorem isDigit_iff_toNat {c : Char} : c.isDigit = true ↔ 48 ≤ c.toNat ∧ c.toNat ≤ 57 := by
  rw [Char.isDigit, Bool.and_eq_true, decide_eq_true_iff, decide_eq_true_iff, ge_iff_le,
    UInt32.le_iff_toNat_le, UInt32.le_iff_toNat_le]
  rfl

theorem digitValue?_of_isDigit {c : Char} (digit : c.isDigit = true) :
    digitValue? c = some (c.toNat - 48) := by
  rw [isDigit_iff_toNat] at digit
  unfold digitValue?
  dsimp only
  rw [if_pos (by omega), if_pos (by simp; omega)]

theorem digitIn?_of_isDigit {c : Char} (digit : c.isDigit = true) :
    digitIn? 10 c = some (c.toNat - 48) := by
  unfold digitIn?
  rw [digitValue?_of_isDigit digit]
  rw [isDigit_iff_toNat] at digit
  simp
  omega

theorem isBlankByNumber_of_isDigit {c : Char} (digit : c.isDigit = true) :
    isBlankByNumber c = false := by
  rw [isDigit_iff_toNat] at digit
  simp [isBlankByNumber, isBlank]
  omega

theorem isAsciiDigit_eq_isDigit (c : Char) : isAsciiDigit c = c.isDigit := by
  rw [Bool.eq_iff_iff, isDigit_iff_toNat]
  simp [isAsciiDigit, Char.le_def, UInt32.le_iff_toNat_le]

/-! ## Numbers -/

section Numbers

variable {cs : List Char}

theorem groupedDigits?_of_digits (some_digit : cs ≠ []) (digits : ∀ c ∈ cs, c.isDigit = true) :
    groupedDigits? 10 cs = some (cs.map fun c => c.toNat - 48) := by
  induction cs with
  | nil => exact absurd rfl some_digit
  | cons c cs ih =>
      rw [List.forall_mem_cons] at digits
      have first := digitIn?_of_isDigit digits.1
      cases cs with
      | nil => simp [groupedDigits?, first]
      | cons d cs =>
          have notGroup : d ≠ '_' := by
            rintro rfl
            exact absurd (digits.2 '_' List.mem_cons_self) (by decide)
          have others := ih (List.cons_ne_nil d cs) digits.2
          unfold groupedDigits?
          split
          · rename_i none_there
            rw [first] at none_there
            cases none_there
          · rename_i single
            cases single
          · rename_i group
            exact absurd (List.cons.inj group).1 notGroup
          · rename_i found _ _
            rw [first] at found
            cases found
            rw [others]
            rfl

/-- No letter marks base ten. -/
theorem dropBaseMark_ten (cs : List Char) : dropBaseMark 10 cs = cs := by
  unfold dropBaseMark
  split <;> rfl

/-- Decimal digits are read as the number that they denote. -/
theorem int?_of_digits (some_digit : cs ≠ []) (digits : ∀ c ∈ cs, c.isDigit = true) :
    int? cs = some (Nat.ofDigitChars 10 cs 0 : Int) := by
  have stripped : stripChars isBlankByNumber ([] ++ cs ++ []) = cs :=
    stripChars_append (by simp) (by simp)
      (fun c first => isBlankByNumber_of_isDigit (digits c (List.mem_of_mem_head? first)))
      fun c last => isBlankByNumber_of_isDigit (digits c (List.mem_of_mem_getLast? last))
  rw [List.nil_append, List.append_nil] at stripped
  have unsigned : splitSign cs = (false, cs) := by
    unfold splitSign
    split
    · exact absurd (digits '-' List.mem_cons_self) (by decide)
    · exact absurd (digits '+' List.mem_cons_self) (by decide)
    · rfl
  unfold int? intInBase?
  rw [stripped, unsigned]
  dsimp only
  rw [dropBaseMark_ten, groupedDigits?_of_digits some_digit digits]
  simp [natInBase, Nat.ofDigitChars_eq_foldl, List.foldl_map]

theorem ofDigitChars_padZeros (width n : Nat) :
    Nat.ofDigitChars 10 (padZeros width (digitsInBase 10 n)) 0 = n := by
  rw [padZeros, digitsInBase, Nat.ofDigitChars_append, Nat.ofDigitChars_replicate_zero,
    Nat.mul_zero, Nat.ofDigitChars_ten_toDigits]

theorem isDigit_of_mem_padZeros {width n : Nat} {c : Char}
    (member : c ∈ padZeros width (digitsInBase 10 n)) : c.isDigit = true :=
  (isDigits_iff.mp (isDigits_padZeros width n)).2 c member

/-- A number filled with zeros is read as itself. -/
theorem int?_padZeros (width n : Nat) :
    int? (padZeros width (digitsInBase 10 n)) = some (n : Int) := by
  obtain ⟨some_digit, digits⟩ := isDigits_iff.mp (isDigits_padZeros width n)
  rw [int?_of_digits some_digit digits, ofDigitChars_padZeros]

theorem natOfDigits_padZeros (width n : Nat) :
    natOfDigits ((padZeros width (digitsInBase 10 n)).filterMap digitValue?) = n := by
  have values {cs : List Char} (digits : ∀ c ∈ cs, c.isDigit = true) :
      cs.filterMap digitValue? = cs.map fun c => c.toNat - 48 := by
    rw [← List.filterMap_eq_map]
    exact List.filterMap_congr fun c member => digitValue?_of_isDigit (digits c member)
  rw [values fun c => isDigit_of_mem_padZeros, natOfDigits, natInBase, List.foldl_map]
  exact ofDigitChars_padZeros width n

theorem length_padZeros {width n : Nat} (positive : 0 < width) (fits : n < 10 ^ width) :
    (padZeros width (digitsInBase 10 n)).length = width := by
  have atMost := (Nat.length_toDigits_le_iff (by decide) positive).mpr fits
  rw [padZeros, List.length_append, List.length_replicate, digitsInBase]
  omega

end Numbers

/-! ## How large a number is -/

section Bounds

variable {base : Nat} {cs : List Char}

theorem digitIn?_lt {c : Char} {d : Nat} (digit : digitIn? base c = some d) : d < base := by
  obtain ⟨-, small⟩ := Option.filter_eq_some_iff.mp digit
  exact of_decide_eq_true small

theorem groupedDigits?_bounds {ds : List Nat} (grouped : groupedDigits? base cs = some ds) :
    ds.length ≤ cs.length ∧ ∀ d ∈ ds, d < base := by
  fun_induction groupedDigits? base cs generalizing ds with
  | case1 => cases grouped
  | case2 => cases grouped
  | case3 c d digit =>
      cases grouped
      exact ⟨le_rfl, by simpa using digitIn?_lt digit⟩
  | case4 c d rest digit ih =>
      obtain ⟨others, found, rfl⟩ := Option.map_eq_some_iff.mp grouped
      obtain ⟨short, small⟩ := ih found
      refine ⟨?_, List.forall_mem_cons.mpr ⟨digitIn?_lt digit, small⟩⟩
      simp only [List.length_cons]
      omega
  | case5 c d rest _ _ digit ih =>
      obtain ⟨others, found, rfl⟩ := Option.map_eq_some_iff.mp grouped
      obtain ⟨short, small⟩ := ih found
      exact ⟨Nat.succ_le_succ short, List.forall_mem_cons.mpr ⟨digitIn?_lt digit, small⟩⟩

theorem natInBase_lt {ds : List Nat} (small : ∀ d ∈ ds, d < base) :
    natInBase base ds < base ^ ds.length := by
  have from_left (n : Nat) :
      ds.foldl (fun n d => base * n + d) n < (n + 1) * base ^ ds.length := by
    induction ds generalizing n with
    | nil => simp
    | cons d ds ih =>
        rw [List.forall_mem_cons] at small
        calc ds.foldl (fun n d => base * n + d) (base * n + d)
            < (base * n + d + 1) * base ^ ds.length := ih small.2 _
          _ ≤ (base * (n + 1)) * base ^ ds.length :=
              Nat.mul_le_mul_right _ (by rw [Nat.mul_succ]; omega)
          _ = (n + 1) * base ^ (ds.length + 1) := by
              rw [Nat.mul_comm base, Nat.mul_assoc, ← Nat.pow_succ']
  simpa [natInBase] using from_left 0

theorem length_stripChars_le (p : Char → Bool) (cs : List Char) :
    (stripChars p cs).length ≤ cs.length := by
  obtain ⟨before, after, whole, -, -⟩ := exists_stripChars p cs
  have length := congrArg List.length whole
  simp only [List.length_append] at length
  omega

theorem length_splitSign (cs : List Char) :
    (splitSign cs).2.length + (if (splitSign cs).1 then 1 else 0) ≤ cs.length := by
  unfold splitSign
  split <;> simp

/-- A number is smaller than the power of ten with as many digits as its text has characters, one of
which is the sign if it is negative. -/
theorem int?_bounds {n : Int} (spelled : int? cs = some n) :
    n.natAbs < 10 ^ cs.length ∧ (n < 0 → n.natAbs < 10 ^ (cs.length - 1)) := by
  have stripped := length_stripChars_le isBlankByNumber cs
  have signed := length_splitSign (stripChars isBlankByNumber cs)
  unfold int? intInBase? at spelled
  revert spelled signed
  rcases splitSign (stripChars isBlankByNumber cs) with ⟨negative, body⟩
  dsimp only
  intro spelled signed
  rw [dropBaseMark_ten] at spelled
  obtain ⟨ds, grouped, rfl⟩ := Option.map_eq_some_iff.mp spelled
  obtain ⟨short, small⟩ := groupedDigits?_bounds grouped
  have value := natInBase_lt small
  have fits {places : Nat} (room : ds.length ≤ places) : natInBase 10 ds < 10 ^ places :=
    Nat.lt_of_lt_of_le value (Nat.pow_le_pow_right (by decide) room)
  cases negative with
  | false =>
      simp only [Bool.false_eq_true, if_false, Nat.add_zero, Int.natAbs_natCast] at signed ⊢
      exact ⟨fits (by omega), fun below => absurd below (by omega)⟩
  | true =>
      simp only [if_true, Int.natAbs_neg, Int.natAbs_natCast] at signed ⊢
      exact ⟨fits (by omega), fun _ => fits (by omega)⟩

end Bounds

end Bazaar.Text
