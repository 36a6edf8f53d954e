import Bazaar.Json.Reader
import Bazaar.Json.Writer
import Bazaar.Proofs.Decimal.Shortest
import Bazaar.Proofs.Platform
import Bazaar.Proofs.Text.Digit
import Bazaar.Proofs.Text.Phrase

/-!
# Numbers read back

An integer and a double are read as themselves, whatever follows them, as long as it does not go on
as a number does; of an integer the platform must allow as many digits as it has.
-/

namespace Bazaar.Json

open Bazaar.Filter (isDigits isDigits_iff isDigits_append isDigits_digitsInBase isDigits_replicate
  isDigits_zeros_append isDigits_padZeros run_append)

/-! ## Digits -/

/-- The text behind a number does not go on as a number does. -/
def EndsNumber (rest : List Char) : Prop :=
  ∀ c ∈ rest.head?, c.isDigit = false ∧ c ≠ '.' ∧ c ≠ 'e' ∧ c ≠ 'E'

section Digits

variable {ds rest : List Char}

theorem digits_append (all_digits : ∀ c ∈ ds, c.isDigit = true)
    (behind : ∀ c ∈ rest.head?, c.isDigit = false) : digits (ds ++ rest) = (ds, rest) := by
  have ascii : Text.isAsciiDigit = Char.isDigit := funext Text.isAsciiDigit_eq_isDigit
  obtain ⟨taken, left⟩ := run_append all_digits behind
  rw [digits, ascii, taken, left]

theorem digitsValue_eq (ds : List Char) : digitsValue ds = Nat.ofDigitChars 10 ds 0 := by
  rw [digitsValue, Text.natOfDigits, Text.natInBase, List.foldl_map, Nat.ofDigitChars_eq_foldl]
  rfl

theorem digitsValue_digitsInBase (n : Nat) : digitsValue (Text.digitsInBase 10 n) = n := by
  rw [digitsValue_eq]
  exact Nat.ofDigitChars_ten_toDigits

theorem digitsValue_zeros_append (count : Nat) (ds : List Char) :
    digitsValue (List.replicate count '0' ++ ds) = digitsValue ds := by
  rw [digitsValue_eq, digitsValue_eq, Nat.ofDigitChars_append, Nat.ofDigitChars_replicate_zero,
    Nat.mul_zero]

theorem digitsValue_append_zeros (ds : List Char) (count : Nat) :
    digitsValue (ds ++ List.replicate count '0') = 10 ^ count * digitsValue ds := by
  rw [digitsValue_eq, digitsValue_eq, Nat.ofDigitChars_append, Nat.ofDigitChars_replicate_zero]

theorem digitsValue_lt (all_digits : ∀ c ∈ ds, c.isDigit = true) :
    digitsValue ds < 10 ^ ds.length := by
  rw [digitsValue_eq]
  induction ds using List.reverseRecOn with
  | nil => decide
  | append_singleton ds c ih =>
      have digit := Text.isDigit_iff_toNat.mp (all_digits c (by simp))
      have shorter := ih fun d member => all_digits d (List.mem_append_left [c] member)
      have zero : '0'.toNat = 48 := rfl
      rw [Nat.ofDigitChars_append, Nat.ofDigitChars_cons, Nat.ofDigitChars_nil, List.length_append,
        List.length_singleton, pow_succ]
      omega

theorem digitsValue_padZeros (width n : Nat) :
    digitsValue (Text.padZeros width (Text.digitsInBase 10 n)) = n := by
  rw [digitsValue_eq]
  exact Text.ofDigitChars_padZeros width n

/-- Digits that a number may start with: no zero stands before another digit. -/
structure IsWholePart (ds : List Char) : Prop where
  isDigits : isDigits ds = true
  normal : ds = ['0'] ∨ ds.head? ≠ some '0'

theorem wholePart?_append (whole : IsWholePart ds)
    (behind : ∀ c ∈ rest.head?, c.isDigit = false) : wholePart? (ds ++ rest) = some (ds, rest) := by
  obtain ⟨some_digit, all_digits⟩ := isDigits_iff.mp whole.isDigits
  rcases whole.normal with rfl | notZero
  · rfl
  · cases ds with
    | nil => exact absurd rfl some_digit
    | cons c ds =>
        have first : c ≠ '0' := fun zero => notZero (by rw [zero]; rfl)
        rw [List.forall_mem_cons] at all_digits
        rw [List.cons_append, wholePart?, if_neg (by simpa using first),
          if_pos ((Text.isAsciiDigit_eq_isDigit c).trans all_digits.1),
          digits_append all_digits.2 behind]

/-- The digits of a positive number do not start with a zero. -/
theorem head?_digitsInBase_ne {n : Nat} (positive : 0 < n) :
    (Text.digitsInBase 10 n).head? ≠ some '0' := by
  unfold Text.digitsInBase
  induction n using Nat.strongRecOn with
  | ind n ih =>
      by_cases single : n < 10
      · rw [Nat.toDigits_of_lt_base single]
        interval_cases n <;> decide
      · have shorter := ih (n / 10) (by omega) (by omega)
        have some_digit := @Nat.toDigits_ne_nil (n / 10) 10
        rw [Nat.toDigits_of_base_le (by decide) (not_lt.mp single), List.head?_append]
        cases digits : Nat.toDigits 10 (n / 10) with
        | nil => exact absurd digits some_digit
        | cons c cs =>
            rw [digits] at shorter
            exact shorter

theorem isWholePart_digitsInBase (n : Nat) : IsWholePart (Text.digitsInBase 10 n) := by
  refine ⟨isDigits_digitsInBase n, ?_⟩
  rcases Nat.eq_zero_or_pos n with rfl | positive
  · exact .inl rfl
  · exact .inr (head?_digitsInBase_ne positive)

end Digits

/-! ## Fractions and exponents -/

section Parts

variable {whole fraction rest : List Char} {negative : Bool}

theorem fraction?_append (isDigits : isDigits fraction = true)
    (behind : ∀ c ∈ rest.head?, c.isDigit = false) :
    fraction? ('.' :: (fraction ++ rest)) = some (fraction, rest) := by
  obtain ⟨some_digit, all_digits⟩ := isDigits_iff.mp isDigits
  rw [fraction?, digits_append all_digits behind]
  simp [some_digit]

theorem fraction?_of_head (other : ∀ c ∈ rest.head?, c ≠ '.') : fraction? rest = none := by
  unfold fraction?
  split
  · exact absurd rfl (other '.' rfl)
  · rfl

theorem exponent?_of_head (other : ∀ c ∈ rest.head?, c ≠ 'e' ∧ c ≠ 'E') : exponent? rest = none := by
  cases rest with
  | nil => rfl
  | cons c rest => simp [exponent?, other c rfl]

theorem EndsNumber.notDigit (ends : EndsNumber rest) : ∀ c ∈ rest.head?, c.isDigit = false :=
  fun c first => (ends c first).1

theorem EndsNumber.exponent? (ends : EndsNumber rest) : exponent? rest = none :=
  exponent?_of_head fun c first => (ends c first).2.2

/-- An exponent with a sign, as it stands behind the digits. -/
def exponentChars (exponent : Int) : List Char :=
  'e' :: (if exponent < 0 then '-' else '+') ::
    Text.padZeros 2 (Text.digitsInBase 10 exponent.natAbs)

theorem exponent?_exponentChars (exponent : Int) (ends : EndsNumber rest) :
    Json.exponent? (exponentChars exponent ++ rest) = some (exponent, rest) := by
  have isDigits := isDigits_padZeros 2 exponent.natAbs
  have taken := digits_append (isDigits_iff.mp isDigits).2 ends.notDigit
  have value := digitsValue_padZeros 2 exponent.natAbs
  have some_digit := (isDigits_iff.mp isDigits).1
  unfold exponentChars
  split_ifs with below
  · have sign : -(exponent.natAbs : Int) = exponent := by omega
    simp only [List.cons_append, Json.exponent?, Text.splitSign, taken, value, sign]
    simp [some_digit]
  · have sign : (exponent.natAbs : Int) = exponent := by omega
    simp only [List.cons_append, Json.exponent?, Text.splitSign, taken, value, sign]
    simp [some_digit]

/-- A number with a fraction, and perhaps with an exponent. -/
theorem number?_fraction (isWhole : IsWholePart whole) (isDigits : isDigits fraction = true)
    (behind : ∀ c ∈ rest.head?, c.isDigit = false) :
    number? negative (whole ++ '.' :: (fraction ++ rest)) =
      some (.float (Decimal.nearestDecimal negative (digitsValue (whole ++ fraction))
        (((Json.exponent? rest).getD (0, rest)).1 - fraction.length) (whole ++ fraction).length),
        ((Json.exponent? rest).getD (0, rest)).2) := by
  have point : ∀ c ∈ ('.' :: (fraction ++ rest)).head?, c.isDigit = false := by simp [Char.isDigit]
  simp only [number?, wholePart?_append isWhole point, Option.bind_eq_bind, Option.bind_some,
    fraction?_append isDigits behind]
  rfl

/-- A number with an exponent and no fraction. -/
theorem number?_exponent {exponent : Int} (isWhole : IsWholePart whole) (ends : EndsNumber rest) :
    number? negative (whole ++ (exponentChars exponent ++ rest)) =
      some (.float (Decimal.nearestDecimal negative (digitsValue whole) exponent whole.length),
        rest) := by
  have mark : ∀ c ∈ (exponentChars exponent ++ rest).head?, c.isDigit = false := by
    simp [exponentChars, Char.isDigit]
  have noPoint : fraction? (exponentChars exponent ++ rest) = none :=
    fraction?_of_head (by simp [exponentChars])
  simp only [number?, wholePart?_append isWhole mark, Option.bind_eq_bind, Option.bind_some, noPoint,
    exponent?_exponentChars exponent ends]
  rfl

/-- A number with neither is an integer. -/
theorem number?_whole (isWhole : IsWholePart whole) (ends : EndsNumber rest) :
    number? negative (whole ++ rest) =
      some (.int (if negative then -(digitsValue whole : Int) else digitsValue whole), rest) := by
  have noPoint : fraction? rest = none := fraction?_of_head fun c first => (ends c first).2.1
  simp only [number?, wholePart?_append isWhole ends.notDigit, Option.bind_eq_bind, Option.bind_some,
    noPoint, ends.exponent?]
  rfl

end Parts

/-! ## Doubles -/

section Doubles

open Decimal (RoundsTo nearestDecimal_eq_of_roundsTo positional scientific magnitudeText)

variable {x : Float} {negative : Bool} {m : Nat} {e before : Int}
  {whole fraction rest : List Char}

/-- Digits with a point are read as the double that their number rounds to. -/
theorem number?_point (reads : Decimal.read x = .finite negative m e) (some_m : 0 < m)
    (isWhole : IsWholePart whole) (isDigits : isDigits fraction = true) (ends : EndsNumber rest)
    (rounds : RoundsTo m e (digitsValue (whole ++ fraction) * 10 ^ (-fraction.length : Int))) :
    number? negative (whole ++ '.' :: (fraction ++ rest)) = some (.float x, rest) := by
  have all_digits := isDigits_append isWhole.isDigits (isDigits_iff.mp isDigits).2
  have fits := digitsValue_lt (isDigits_iff.mp all_digits).2
  rw [number?_fraction isWhole isDigits ends.notDigit, ends.exponent?]
  dsimp only [Option.getD_none]
  rw [zero_sub, nearestDecimal_eq_of_roundsTo reads some_m fits rounds]

section Forms

variable {ds : List Char}

/-- Digits behind the point, with zeros between. -/
theorem number?_zeros_digits (reads : Decimal.read x = .finite negative m e) (some_m : 0 < m)
    (isDigits : isDigits ds = true) (ends : EndsNumber rest) (zeros : Nat)
    (rounds : RoundsTo m e (digitsValue ds * 10 ^ (-(zeros + ds.length : Nat) : Int))) :
    number? negative (['0'] ++ '.' :: ((List.replicate zeros '0' ++ ds) ++ rest)) =
      some (.float x, rest) := by
  obtain ⟨some_digit, all_digits⟩ := isDigits_iff.mp isDigits
  have leading := digitsValue_zeros_append (zeros + 1) ds
  rw [List.replicate_succ] at leading
  apply number?_point reads some_m ⟨rfl, .inl rfl⟩ (isDigits_zeros_append some_digit all_digits) ends
  rw [List.singleton_append, ← List.cons_append, leading, List.length_append,
    List.length_replicate]
  exact rounds

/-- Digits before the point, with zeros between. -/
theorem number?_digits_zeros (reads : Decimal.read x = .finite negative m e) (some_m : 0 < m)
    (isDigits : isDigits ds = true) (normal : ds.head? ≠ some '0') (ends : EndsNumber rest)
    (zeros : Nat) (rounds : RoundsTo m e (digitsValue ds * 10 ^ (zeros : Int))) :
    number? negative ((ds ++ List.replicate zeros '0') ++ '.' :: (['0'] ++ rest)) =
      some (.float x, rest) := by
  have isWhole : IsWholePart (ds ++ List.replicate zeros '0') := by
    refine ⟨isDigits_append isDigits (isDigits_replicate zeros), .inr ?_⟩
    rwa [List.head?_append_of_ne_nil _ (isDigits_iff.mp isDigits).1]
  have trailing : digitsValue (ds ++ List.replicate zeros '0' ++ ['0']) =
      10 ^ (zeros + 1) * digitsValue ds := by
    rw [← digitsValue_append_zeros, List.replicate_succ', List.append_assoc]
  have value : ((10 ^ (zeros + 1) * digitsValue ds : Nat) : ℚ) * 10 ^ (-1 : Int) =
      digitsValue ds * 10 ^ (zeros : Int) := by
    rw [zpow_natCast, zpow_neg_one, Nat.cast_mul, Nat.cast_pow, Nat.cast_ofNat, pow_succ]
    ring
  apply number?_point reads some_m isWhole rfl ends
  rw [trailing]
  exact value ▸ rounds

/-- Digits on both sides of the point. -/
theorem number?_take_drop (reads : Decimal.read x = .finite negative m e) (some_m : 0 < m)
    (isDigits : isDigits ds = true) (normal : ds.head? ≠ some '0') (ends : EndsNumber rest)
    {count : Nat} (some_count : 0 < count) (inside : count < ds.length)
    (rounds : RoundsTo m e (digitsValue ds * 10 ^ (-(ds.length - count : Nat) : Int))) :
    number? negative (ds.take count ++ '.' :: (ds.drop count ++ rest)) =
      some (.float x, rest) := by
  obtain ⟨some_digit, all_digits⟩ := isDigits_iff.mp isDigits
  have taken : Filter.isDigits (ds.take count) = true :=
    isDigits_iff.mpr ⟨by simp [some_digit, some_count.ne'], fun c member =>
      all_digits c (List.mem_of_mem_take member)⟩
  have left : Filter.isDigits (ds.drop count) = true :=
    isDigits_iff.mpr ⟨by simpa using inside, fun c member =>
      all_digits c (List.mem_of_mem_drop member)⟩
  have first : (ds.take count).head? ≠ some '0' := by
    rwa [List.head?_take, if_neg some_count.ne']
  apply number?_point reads some_m ⟨taken, .inr first⟩ left ends
  rw [List.take_append_drop, List.length_drop]
  exact rounds

/-- A positional text is read as the double that its number rounds to. -/
theorem number?_positional (reads : Decimal.read x = .finite negative m e) (some_m : 0 < m)
    (isDigits : isDigits ds = true) (normal : ds.head? ≠ some '0') (ends : EndsNumber rest)
    (rounds : RoundsTo m e (digitsValue ds * 10 ^ (before - ds.length))) :
    number? negative (positional ds before ++ rest) = some (.float x, rest) := by
  unfold positional
  split_ifs with small large
  · have places : before - ds.length = -((-before).toNat + ds.length : Nat) := by omega
    rw [places] at rounds
    simpa using number?_zeros_digits reads some_m isDigits ends _ rounds
  · have places : before - ds.length = (before.toNat - ds.length : Nat) := by omega
    rw [places] at rounds
    simpa using number?_digits_zeros reads some_m isDigits normal ends _ rounds
  · have places : before - ds.length = -(ds.length - before.toNat : Nat) := by omega
    rw [places] at rounds
    simpa using number?_take_drop reads some_m isDigits normal ends (by omega) (by omega) rounds

/-- A scientific text is read as the double that its number rounds to. -/
theorem number?_scientific (reads : Decimal.read x = .finite negative m e) (some_m : 0 < m)
    (isDigits : isDigits ds = true) (normal : ds.head? ≠ some '0') (ends : EndsNumber rest)
    (rounds : RoundsTo m e (digitsValue ds * 10 ^ (before - ds.length))) :
    number? negative (scientific ds (before - 1) ++ rest) = some (.float x, rest) := by
  have fits := digitsValue_lt (isDigits_iff.mp isDigits).2
  match ds, isDigits with
  | [d], isDigits =>
      change RoundsTo m e (digitsValue [d] * 10 ^ (before - 1)) at rounds
      have split : scientific [d] (before - 1) ++ rest =
          [d] ++ (exponentChars (before - 1) ++ rest) := rfl
      rw [split, number?_exponent ⟨isDigits, .inr normal⟩ ends,
        nearestDecimal_eq_of_roundsTo reads some_m fits rounds]
  | d :: d' :: others, isDigits =>
      obtain ⟨-, all_digits⟩ := isDigits_iff.mp isDigits
      have first : Filter.isDigits [d] = true := by simp [isDigits_iff, all_digits]
      have left : Filter.isDigits (d' :: others) = true :=
        isDigits_iff.mpr ⟨by simp, fun c member => all_digits c (List.mem_cons_of_mem d member)⟩
      have split : scientific (d :: d' :: others) (before - 1) ++ rest =
          [d] ++ '.' :: ((d' :: others) ++ (exponentChars (before - 1) ++ rest)) := by
        simp [scientific, exponentChars]
      have mark : ∀ c ∈ (exponentChars (before - 1) ++ rest).head?, c.isDigit = false := by
        simp [exponentChars, Char.isDigit]
      have places : before - 1 - ((d' :: others).length : Int) =
          before - (d :: d' :: others).length := by
        simp only [List.length_cons]
        omega
      rw [split, number?_fraction ⟨first, .inr normal⟩ left mark,
        exponent?_exponentChars (before - 1) ends]
      dsimp only [Option.getD_some]
      rw [places, List.singleton_append, nearestDecimal_eq_of_roundsTo reads some_m fits rounds]

end Forms

/-- The digits of a double, without its sign, are read as it. -/
theorem number?_magnitudeText (reads : Decimal.read x = .finite negative m e)
    (ends : EndsNumber rest) :
    number? negative (magnitudeText m e ++ rest) = some (.float x, rest) := by
  rcases Nat.eq_zero_or_pos m with rfl | some_m
  · have zero : x = Decimal.nearest negative 0 1 :=
      Decimal.eq_nearest_of_read reads (by decide) (by rw [Nat.zero_mul, Nat.zero_mul])
    have text : magnitudeText 0 e ++ rest = ['0'] ++ '.' :: (['0'] ++ rest) := rfl
    rw [text, number?_fraction ⟨rfl, .inl rfl⟩ rfl ends.notDigit, ends.exponent?, zero]
    rfl
  · have rounds := Decimal.shortest_roundsTo (Decimal.isPlaced_of_read reads) some_m
    have positive : 0 < (Decimal.shortest m e).1 := by
      have product := (pos_iff_pos_of_mul_pos (rounds.pos some_m)).mpr (Decimal.ten_zpow_pos _)
      exact_mod_cast product
    unfold magnitudeText
    rw [if_neg (by simpa using some_m.ne')]
    dsimp only
    have isDigits := isDigits_digitsInBase (Decimal.shortest m e).1
    have normal := head?_digitsInBase_ne positive
    rw [← add_sub_cancel_right (Decimal.shortest m e).2
      ((Text.digitsInBase 10 (Decimal.shortest m e).1).length : Int),
      ← congrArg Nat.cast (digitsValue_digitsInBase (Decimal.shortest m e).1)] at rounds
    split_ifs
    · exact number?_positional reads some_m isDigits normal ends rounds
    · exact number?_scientific reads some_m isDigits normal ends rounds

end Doubles

/-! ## Scalars -/

section Scalars

variable {cs rest : List Char} {found : Json × List Char}

/-- The signs behind a word or a number do not go on as they do. -/
def EndsScalar (behind : Phrase) : Prop :=
  ∀ c, Sign.char c ∈ behind.head? → isScalarChar c = false

theorem isScalarChar_of_isNumeralChar {c : Char} (numeral : Filter.isNumeralChar c = true) :
    isScalarChar c = true := by
  rw [Filter.isNumeralChar, Bool.or_eq_true] at numeral
  rcases numeral with digit | mark
  · simp [isScalarChar, Char.isAlphanum, digit]
  · obtain rfl | rfl | rfl | rfl : c = '-' ∨ c = '+' ∨ c = '.' ∨ c = 'e' := by
      simpa using mark
    all_goals rfl

/-- The characters of a word or a number are told from what follows them. -/
theorem scalarChars_ofChars {behind : Phrase} (inside : ∀ c ∈ cs, isScalarChar c = true)
    (ends : EndsScalar behind) : scalarChars (Phrase.ofChars cs ++ behind) = cs := by
  induction cs with
  | nil =>
      cases behind with
      | nil => rfl
      | cons s behind =>
          cases s with
          | half h => rfl
          | char c =>
              rw [Phrase.ofChars_nil, List.nil_append, scalarChars, ends c rfl]
              rfl
  | cons c cs ih =>
      rw [List.forall_mem_cons] at inside
      rw [Phrase.ofChars_cons, List.cons_append, scalarChars, if_pos inside.1, ih inside.2]

/-- A word or a number that the platform allows is read, whatever follows it. -/
theorem scalar_ofChars [Platform] {v : Json} {behind : Phrase}
    (inside : ∀ c ∈ cs, isScalarChar c = true) (found : scalar? cs = some (v, []))
    (allowed : checkNumber v = .ok ()) (ends : EndsScalar behind) :
    scalar (Phrase.ofChars cs ++ behind) = .ok (v, behind) := by
  unfold scalar
  dsimp only
  rw [scalarChars_ofChars inside ends, found]
  dsimp only
  rw [allowed]
  simp

/-- A digit starts no word, with a minus before it or without. -/
theorem no_word {c : Char} (digit : c.isDigit = true) (negative : Bool) :
    (words.findSome? fun (word, v) =>
      (Text.after? word ((if negative then ['-'] else []) ++ c :: cs)).map (v, ·)) = none := by
  have apart {d : Char} (notDigit : d.isDigit = false) : d ≠ c := by
    rintro rfl
    rw [digit] at notDigit
    cases notDigit
  have n : 'n' ≠ c := apart rfl
  have t : 't' ≠ c := apart rfl
  have f : 'f' ≠ c := apart rfl
  have u : 'N' ≠ c := apart rfl
  have i : 'I' ≠ c := apart rfl
  have m : '-' ≠ c := apart rfl
  cases negative <;> simp [words, Text.after?, n, t, f, u, i, m]

/-- A number is read with its sign. -/
theorem scalar?_of_number? {negative : Bool} (digit : ∃ c ∈ cs.head?, c.isDigit = true)
    (number : number? negative cs = some found) :
    scalar? ((if negative then ['-'] else []) ++ cs) = some found := by
  obtain ⟨c, first, digit⟩ := digit
  cases cs with
  | nil => cases first
  | cons d cs =>
      cases first
      unfold scalar?
      rw [no_word digit]
      cases negative with
      | true => simp [number]
      | false =>
          have unsigned : c ≠ '-' := by
            rintro rfl
            cases digit
          simp [number, unsigned]

theorem exists_digit_of_isUnsigned (unsigned : Filter.isUnsigned cs = true) :
    ∃ c ∈ (cs ++ rest).head?, c.isDigit = true := by
  rw [Filter.isUnsigned, Bool.and_eq_true, isDigits_iff] at unsigned
  cases cs with
  | nil => exact absurd rfl unsigned.1.1
  | cons c cs =>
      refine ⟨c, rfl, ?_⟩
      by_contra other
      rw [List.takeWhile_cons_of_neg other] at unsigned
      exact unsigned.1.1 rfl

theorem toList_toString_int (n : Int) : (toString n).toList =
    (if decide (n < 0) then ['-'] else []) ++ Text.digitsInBase 10 n.natAbs := by
  rw [Int.toString_eq_repr, Int.repr_eq_if]
  split_ifs with natural below below
  · exact absurd natural (not_le.mpr (of_decide_eq_true below))
  · have magnitude : n.toNat = n.natAbs := by omega
    rw [magnitude, Nat.toList_repr]
    rfl
  · have magnitude : (-n).toNat = n.natAbs := by omega
    rw [magnitude, String.toList_append, Nat.toList_repr]
    rfl
  · exact absurd (decide_eq_true (not_le.mp natural)) below

theorem scalar?_int (n : Int) (ends : EndsNumber rest) :
    scalar? ((toString n).toList ++ rest) = some (.int n, rest) := by
  have isWhole := isWholePart_digitsInBase n.natAbs
  have sign : (if decide (n < 0) = true then -(n.natAbs : Int) else n.natAbs) = n := by
    simp only [decide_eq_true_eq]
    split_ifs <;> omega
  rw [toList_toString_int, List.append_assoc]
  apply scalar?_of_number?
  · exact exists_digit_of_isUnsigned (Filter.isUnsigned_of_isDigits isWhole.isDigits)
  · rw [number?_whole isWhole ends, digitsValue_digitsInBase, sign]

/-- An infinity is one of two doubles. -/
theorem eq_infinity_of_read {x : Float} {negative : Bool}
    (reads : Decimal.read x = .infinite negative) :
    x = if negative then -Decimal.infinity else Decimal.infinity := by
  have inWord : x.toBits.toNat < 2 ^ 64 := x.toBits.toNat_lt
  have parts : x.toBits.toNat / 2 ^ 52 % 2048 = 2047 ∧ x.toBits.toNat % 2 ^ 52 = 0 ∧
      negative = (x.toBits.toNat / 2 ^ 63 == 1) := by
    unfold Decimal.read at reads
    change (if x.toBits.toNat / 2 ^ 52 % 2048 == 2047 then
      (if x.toBits.toNat % 2 ^ 52 == 0 then _ else _) else
      if x.toBits.toNat / 2 ^ 52 % 2048 == 0 then _ else _) = _ at reads
    split_ifs at reads with top none_left low
    · cases reads
      exact ⟨beq_iff_eq.mp top, beq_iff_eq.mp none_left, rfl⟩
  obtain ⟨top, none_left, rfl⟩ := parts
  apply Float.toBits_inj.mp
  apply UInt64.toNat_inj.mp
  have positive : Decimal.infinity.toBits.toNat = 2047 * 2 ^ 52 := rfl
  have below : (-Decimal.infinity).toBits.toNat = 2 ^ 63 + 2047 * 2 ^ 52 := rfl
  split_ifs with sign
  · rw [beq_iff_eq] at sign
    rw [below]
    omega
  · rw [beq_iff_eq] at sign
    rw [positive]
    omega

theorem toList_text {x : Float} {negative : Bool} {m : Nat} {e : Int}
    (reads : Decimal.read x = .finite negative m e) :
    (Decimal.text x).toList = (if negative then ['-'] else []) ++ Decimal.magnitudeText m e := by
  rw [Decimal.text, reads]
  exact String.toList_ofList

theorem scalar?_floatChars {x : Float} (defined : Decimal.read x ≠ .nan) (ends : EndsNumber rest) :
    scalar? (floatChars x ++ rest) = some (.float x, rest) := by
  unfold floatChars
  cases reads : Decimal.read x with
  | nan => exact absurd reads defined
  | infinite negative =>
      obtain rfl := eq_infinity_of_read reads
      cases negative <;> rfl
  | finite negative m e =>
      dsimp only
      rw [toList_text reads, List.append_assoc]
      apply scalar?_of_number?
      · exact exists_digit_of_isUnsigned (Filter.isUnsigned_magnitudeText m e)
      · exact number?_magnitudeText reads ends

theorem isScalarChar_floatChars (x : Float) : ∀ c ∈ floatChars x, isScalarChar c = true := by
  unfold floatChars
  cases reads : Decimal.read x with
  | nan => simp [isScalarChar, Char.isAlphanum, Char.isAlpha, Char.isLower, Char.isUpper]
  | infinite negative =>
      cases negative <;>
        simp [isScalarChar, Char.isAlphanum, Char.isAlpha, Char.isLower, Char.isUpper]
  | finite negative m e =>
      have finite : Decimal.isFinite x = true := by
        rw [Decimal.isFinite, reads]
      intro c member
      exact isScalarChar_of_isNumeralChar
        (Filter.isNumeralChar_of_isNumeral (Filter.isNumeral_text finite) c member)

section Read

variable [Platform] {behind : Phrase}

theorem checkNumber_int {n : Int} :
    checkNumber (.int n) = .ok () ↔ Platform.Allows (Platform.digitCount n) := by
  rw [checkNumber, Platform.checkReading, Platform.check_eq_ok_iff]

/-- An integer is read as itself if the platform allows as many digits. -/
theorem scalar_int {n : Int} (allows : Platform.Allows (Platform.digitCount n))
    (ends : EndsScalar behind) :
    scalar (Phrase.ofString (toString n) ++ behind) = .ok (.int n, behind) := by
  have inside : ∀ c ∈ (toString n).toList, isScalarChar c = true := fun c member =>
    isScalarChar_of_isNumeralChar
      (Filter.isNumeralChar_of_isNumeral (Filter.isNumeral_toString_int n) c member)
  have found := scalar?_int n (by simp [EndsNumber] : EndsNumber [])
  rw [List.append_nil] at found
  exact scalar_ofChars inside found (checkNumber_int.mpr allows) ends

/-- A double that is not undefined is read as itself. -/
theorem scalar_floatChars {x : Float} (defined : Decimal.read x ≠ .nan)
    (ends : EndsScalar behind) :
    scalar (Phrase.ofChars (floatChars x) ++ behind) = .ok (.float x, behind) := by
  have found := scalar?_floatChars defined (by simp [EndsNumber] : EndsNumber [])
  rw [List.append_nil] at found
  exact scalar_ofChars (isScalarChar_floatChars x) found rfl ends

end Read

end Scalars

end Bazaar.Json
