import Bazaar.Decimal.Reading
import Bazaar.Proofs.Text

/-!
# The texts that spell a decimal

A grammar for the texts that a person may write for a number: digits of any script with single
underscores between them, a point, an exponent, a sign, the names of an infinity and of the
undefined value.  A text is read as a double exactly if it belongs to the grammar.
-/

namespace Bazaar.Decimal

/-! ## The grammar -/

/-- Digits of any script, with single underscores allowed between two of them. -/
inductive Digits : List Char → Prop where
  | one {c : Char} (digit : Text.isDigit c = true) : Digits [c]
  | next {c : Char} {cs : List Char} (digit : Text.isDigit c = true) (later : Digits cs) :
      Digits (c :: cs)
  | grouped {c : Char} {cs : List Char} (digit : Text.isDigit c = true) (later : Digits cs) :
      Digits (c :: '_' :: cs)

/-- A sign, which may be missing. -/
inductive Sign : List Char → Prop where
  | absent : Sign []
  | plus : Sign ['+']
  | minus : Sign ['-']

/-- An exponent, which may be missing. -/
inductive Exponent : List Char → Prop where
  | absent : Exponent []
  | written {mark : Char} {sign digits : List Char} (marked : mark = 'e' ∨ mark = 'E')
      (isSign : Sign sign) (isDigits : Digits digits) : Exponent (mark :: (sign ++ digits))

/-- Digits with or without a point among them, in front of them or behind them. -/
inductive Mantissa : List Char → Prop where
  | whole {whole : List Char} (isDigits : Digits whole) : Mantissa whole
  | wholePoint {whole : List Char} (isDigits : Digits whole) : Mantissa (whole ++ ['.'])
  | fraction {fraction : List Char} (isDigits : Digits fraction) : Mantissa ('.' :: fraction)
  | both {whole fraction : List Char} (isWhole : Digits whole) (isFraction : Digits fraction) :
      Mantissa (whole ++ '.' :: fraction)

/-- The name of an infinity or of the undefined value, in letters of either case. -/
def IsName (cs : List Char) : Prop :=
  cs.map Char.toLower = "inf".toList ∨ cs.map Char.toLower = "infinity".toList ∨
    cs.map Char.toLower = "nan".toList

/-- A decimal or a name, without a sign. -/
inductive Unsigned : List Char → Prop where
  | name {cs : List Char} (isName : IsName cs) : Unsigned cs
  | number {mantissa exponent : List Char} (isMantissa : Mantissa mantissa)
      (isExponent : Exponent exponent) : Unsigned (mantissa ++ exponent)

/-- A text that spells a double, without blanks around it. -/
inductive Spelled : List Char → Prop where
  | signed {sign body : List Char} (isSign : Sign sign) (isUnsigned : Unsigned body) :
      Spelled (sign ++ body)

/-! ## Digits -/

theorem isDigit_iff {c : Char} : Text.isDigit c = true ↔ ∃ d, Text.digitValue? c = some d :=
  Option.isSome_iff_exists

theorem Digits.ne_nil {cs : List Char} (digits : Digits cs) : cs ≠ [] := by
  cases digits <;> simp

theorem Digits.head? {cs : List Char} (digits : Digits cs) :
    ∀ c ∈ cs.head?, Text.isDigit c = true := by
  cases digits <;> simpa

theorem digits_of_forall {cs : List Char} (some_char : cs ≠ [])
    (all : ∀ c ∈ cs, Text.isDigit c = true) : Digits cs := by
  induction cs with
  | nil => exact absurd rfl some_char
  | cons c cs ih =>
      have digit := all c List.mem_cons_self
      cases cs with
      | nil => exact .one digit
      | cons e cs =>
          exact .next digit (ih (by simp) fun c member => all c (List.mem_cons_of_mem _ member))

/-- A text that does not go on with a digit or an underscore. -/
def Stops (cs : List Char) : Prop :=
  ∀ c ∈ cs.head?, Text.isDigit c = false ∧ c ≠ '_'

theorem stops_nil : Stops [] := by
  simp [Stops]

theorem takeDigits_of_stops {cs : List Char} (stops : Stops cs) : takeDigits cs = ([], cs) := by
  cases cs with
  | nil => rfl
  | cons c cs =>
      have none_there : Text.digitValue? c = none := by
        simpa [Text.isDigit] using (stops c rfl).1
      rw [takeDigits, none_there]

theorem takeDigits_next {c : Char} {d : Nat} {cs : List Char}
    (digit : Text.digitValue? c = some d) (plain : cs.head? ≠ some '_') :
    takeDigits (c :: cs) = (d :: (takeDigits cs).1, (takeDigits cs).2) := by
  rw [takeDigits, digit]
  dsimp only
  split
  · simp at plain
  · rfl

theorem takeDigits_grouped {c e : Char} {d : Nat} {cs : List Char}
    (digit : Text.digitValue? c = some d) (later : Text.isDigit e = true) :
    takeDigits (c :: '_' :: e :: cs) =
      (d :: (takeDigits (e :: cs)).1, (takeDigits (e :: cs)).2) := by
  rw [takeDigits, digit]
  simp [later]

/-- Digits in front of a text that does not go on with them are taken whole. -/
theorem Digits.takeDigits_append {front rest : List Char} (digits : Digits front)
    (stops : Stops rest) : ∃ d ds, takeDigits (front ++ rest) = (d :: ds, rest) := by
  have cons_of (cs : List Char) (later : Digits cs) :
      ∃ e tail, cs = e :: tail ∧ Text.isDigit e = true := by
    obtain ⟨e, tail, rfl⟩ := List.exists_cons_of_ne_nil later.ne_nil
    exact ⟨e, tail, rfl, later.head? e rfl⟩
  induction digits with
  | one digit =>
      obtain ⟨d, there⟩ := isDigit_iff.mp digit
      have plain : rest.head? ≠ some '_' := fun first => (stops '_' first).2 rfl
      refine ⟨d, [], ?_⟩
      rw [List.singleton_append, takeDigits_next there plain, takeDigits_of_stops stops]
  | @next c cs digit later ih =>
      obtain ⟨d, there⟩ := isDigit_iff.mp digit
      obtain ⟨ds, taken⟩ : ∃ ds, takeDigits (cs ++ rest) = (ds, rest) := by
        obtain ⟨e, es, taken⟩ := ih
        exact ⟨_, taken⟩
      have plain : (cs ++ rest).head? ≠ some '_' := by
        obtain ⟨e, tail, rfl, isDigit⟩ := cons_of cs later
        rintro ⟨⟩
        exact absurd isDigit (by decide)
      exact ⟨d, ds, by rw [List.cons_append, takeDigits_next there plain, taken]⟩
  | @grouped c cs digit later ih =>
      obtain ⟨d, there⟩ := isDigit_iff.mp digit
      obtain ⟨e, es, taken⟩ := ih
      obtain ⟨f, tail, rfl, isDigit⟩ := cons_of cs later
      refine ⟨d, e :: es, ?_⟩
      rw [List.cons_append, List.cons_append, List.cons_append, takeDigits_grouped there isDigit,
        ← List.cons_append, taken]

theorem rest_of_takeDigits_eq_nil {cs tail : List Char} (taken : takeDigits cs = ([], tail)) :
    tail = cs ∧ ∀ c ∈ cs.head?, Text.isDigit c = false := by
  cases cs with
  | nil => cases taken; simp
  | cons c cs =>
      rw [takeDigits] at taken
      split at taken
      · rename_i noDigit
        cases taken
        simp [Text.isDigit, noDigit]
      · split at taken
        · split at taken <;> cases taken
        · cases taken

/-- What is taken off the front are digits. -/
theorem digits_of_takeDigits {cs tail : List Char} {ds : List Nat}
    (taken : takeDigits cs = (ds, tail)) (some_digit : ds ≠ []) :
    ∃ front, Digits front ∧ cs = front ++ tail := by
  fun_induction takeDigits cs generalizing ds tail with
  | case1 => cases taken; exact absurd rfl some_digit
  | case2 => cases taken; exact absurd rfl some_digit
  | case3 c d digit e cs isDigit ds' tail' taken' ih =>
      cases taken
      have isDigit' : Text.isDigit c = true := isDigit_iff.mpr ⟨d, digit⟩
      have some_digit' : ds' ≠ [] := by
        rintro rfl
        simp [(rest_of_takeDigits_eq_nil taken').2 e rfl] at isDigit
      obtain ⟨front, digits, whole⟩ := ih taken' some_digit'
      exact ⟨c :: '_' :: front, .grouped isDigit' digits, by rw [whole]; rfl⟩
  | case4 c d digit e cs noDigit =>
      cases taken
      exact ⟨[c], .one (isDigit_iff.mpr ⟨d, digit⟩), rfl⟩
  | case5 c d digit cs plain ds' tail' taken' ih =>
      cases taken
      have isDigit : Text.isDigit c = true := isDigit_iff.mpr ⟨d, digit⟩
      cases ds' with
      | nil => exact ⟨[c], .one isDigit, by rw [(rest_of_takeDigits_eq_nil taken').1]; rfl⟩
      | cons e es =>
          obtain ⟨front, digits, whole⟩ := ih taken' (List.cons_ne_nil e es)
          exact ⟨c :: front, .next isDigit digits, by rw [whole]; rfl⟩

/-! ## Parts of a decimal -/

theorem splitSign_append {sign cs : List Char} (isSign : Sign sign)
    (unsigned : ∀ c ∈ cs.head?, c ≠ '-' ∧ c ≠ '+') : (Text.splitSign (sign ++ cs)).2 = cs := by
  cases isSign with
  | plus => rfl
  | minus => rfl
  | absent =>
      rw [List.nil_append]
      unfold Text.splitSign
      split
      · exact absurd rfl (unsigned '-' rfl).1
      · exact absurd rfl (unsigned '+' rfl).2
      · rfl

theorem sign_of_splitSign (cs : List Char) :
    ∃ sign, Sign sign ∧ cs = sign ++ (Text.splitSign cs).2 := by
  unfold Text.splitSign
  split
  · exact ⟨_, .minus, rfl⟩
  · exact ⟨_, .plus, rfl⟩
  · exact ⟨_, .absent, rfl⟩

theorem ne_sign_of_isDigit {c : Char} (digit : Text.isDigit c = true) : c ≠ '-' ∧ c ≠ '+' := by
  constructor <;> rintro rfl <;> exact absurd digit (by decide)

theorem isSome_exponent?_iff {cs : List Char} : (exponent? cs).isSome = true ↔ Exponent cs := by
  constructor
  · intro isSome
    cases cs with
    | nil => exact .absent
    | cons mark rest =>
        rw [exponent?] at isSome
        split at isSome
        · rename_i marked
          obtain ⟨sign, isSign, whole⟩ := sign_of_splitSign rest
          dsimp only at isSome
          split at isSome
          · cases isSome
          · rename_i ds some_digit taken
            obtain ⟨digits, isDigits, only⟩ := digits_of_takeDigits taken some_digit
            rw [whole, only, List.append_nil]
            exact .written (by simpa using marked) isSign isDigits
          · cases isSome
        · cases isSome
  · rintro (_ | ⟨marked, isSign, isDigits⟩)
    · rfl
    · rename_i mark sign digits
      obtain ⟨d, ds, taken⟩ := isDigits.takeDigits_append stops_nil
      rw [List.append_nil] at taken
      have split := splitSign_append isSign fun c first =>
        ne_sign_of_isDigit (isDigits.head? c first)
      simp only [exponent?, split, taken]
      simp [marked]

theorem stops_point (cs : List Char) : Stops ('.' :: cs) := by
  rintro c ⟨⟩
  decide

theorem Exponent.stops {cs : List Char} (isExponent : Exponent cs) : Stops cs := by
  cases isExponent with
  | absent => exact stops_nil
  | written marked =>
      rintro c ⟨⟩
      rcases marked with rfl | rfl <;> decide

theorem Exponent.fractionDigits_eq {cs : List Char} (isExponent : Exponent cs) :
    fractionDigits cs = ([], cs) := by
  cases isExponent with
  | absent => rfl
  | written marked => rcases marked with rfl | rfl <;> rfl

/-- The digits of a decimal with or without a point. -/
def mantissaDigits (cs : List Char) : List Nat × List Char :=
  let (whole, rest) := takeDigits cs
  let (fraction, rest) := fractionDigits rest
  (whole ++ fraction, rest)

theorem Mantissa.mantissaDigits_append {mantissa rest : List Char} (isMantissa : Mantissa mantissa)
    (isExponent : Exponent rest) :
    ∃ d ds, mantissaDigits (mantissa ++ rest) = (d :: ds, rest) := by
  have stops := isExponent.stops
  cases isMantissa with
  | whole isDigits =>
      obtain ⟨d, ds, taken⟩ := isDigits.takeDigits_append stops
      exact ⟨d, ds ++ [], by simp only [mantissaDigits, taken, isExponent.fractionDigits_eq]; rfl⟩
  | @wholePoint whole isDigits =>
      obtain ⟨d, ds, taken⟩ := isDigits.takeDigits_append (stops_point rest)
      refine ⟨d, ds ++ [], ?_⟩
      rw [List.append_assoc, List.singleton_append]
      simp only [mantissaDigits, taken, fractionDigits, takeDigits_of_stops stops]
      rfl
  | fraction isDigits =>
      obtain ⟨d, ds, taken⟩ := isDigits.takeDigits_append stops
      refine ⟨d, ds, ?_⟩
      rw [List.cons_append]
      simp only [mantissaDigits, takeDigits_of_stops (stops_point _), fractionDigits, taken]
      rfl
  | @both whole fraction isWhole isFraction =>
      obtain ⟨d, ds, taken⟩ := isWhole.takeDigits_append (stops_point (fraction ++ rest))
      obtain ⟨e, es, taken'⟩ := isFraction.takeDigits_append stops
      refine ⟨d, ds ++ e :: es, ?_⟩
      rw [List.append_assoc, List.cons_append]
      simp only [mantissaDigits, taken, fractionDigits, taken']
      rfl

theorem fractionDigits_cases (cs : List Char) :
    fractionDigits cs = ([], cs) ∨
      ∃ rest, cs = '.' :: rest ∧ fractionDigits cs = takeDigits rest := by
  unfold fractionDigits
  split
  · exact .inr ⟨_, rfl, rfl⟩
  · exact .inl rfl

/-- What the digits of a decimal are taken from. -/
theorem mantissa_of_mantissaDigits {cs tail : List Char} {ds : List Nat}
    (taken : mantissaDigits cs = (ds, tail)) (some_digit : ds ≠ []) :
    ∃ mantissa, Mantissa mantissa ∧ cs = mantissa ++ tail := by
  rcases first : takeDigits cs with ⟨whole, rest⟩
  rcases second : fractionDigits rest with ⟨fraction, tail'⟩
  simp only [mantissaDigits, first, second] at taken
  cases taken
  have front (some_whole : whole ≠ []) := digits_of_takeDigits first some_whole
  have start (no_whole : whole = []) : rest = cs := by
    subst no_whole
    exact (rest_of_takeDigits_eq_nil first).1
  rcases fractionDigits_cases rest with noPoint | ⟨behind, point, same⟩
  · rw [noPoint] at second
    cases second
    obtain ⟨digits, isDigits, rfl⟩ := front (by simpa using some_digit)
    exact ⟨digits, .whole isDigits, rfl⟩
  rw [same] at second
  by_cases some_fraction : fraction = []
  · subst some_fraction
    obtain ⟨digits, isDigits, rfl⟩ := front (by simpa using some_digit)
    refine ⟨digits ++ ['.'], .wholePoint isDigits, ?_⟩
    rw [(rest_of_takeDigits_eq_nil second).1, point, List.append_assoc]
    rfl
  · obtain ⟨later, isLater, rfl⟩ := digits_of_takeDigits second some_fraction
    by_cases some_whole : whole = []
    · exact ⟨'.' :: later, .fraction isLater, by rw [← start some_whole, point]; rfl⟩
    · obtain ⟨digits, isDigits, rfl⟩ := front some_whole
      refine ⟨digits ++ '.' :: later, .both isDigits isLater, ?_⟩
      rw [point, List.append_assoc]
      rfl

/-! ## Decimals -/

theorem isSome_unsigned?_of_isName (negative : Bool) {cs : List Char} (isName : IsName cs) :
    (unsigned? negative cs).isSome = true := by
  unfold unsigned?
  dsimp only
  split
  · rfl
  · rename_i noInfinity
    split
    · rfl
    · rename_i noNan
      simp only [Bool.or_eq_true, beq_iff_eq, not_or] at noInfinity noNan
      exact (isName.elim noInfinity.1 fun others => others.elim noInfinity.2 noNan).elim

theorem unsigned?_of_not_isName (negative : Bool) {cs : List Char} (noName : ¬IsName cs) :
    unsigned? negative cs =
      if (mantissaDigits cs).1.isEmpty then none
      else (exponent? (mantissaDigits cs).2).map fun e => nearestDecimal negative
        (Text.natOfDigits (mantissaDigits cs).1)
        (e - (fractionDigits (takeDigits cs).2).1.length) (mantissaDigits cs).1.length := by
  simp only [IsName, not_or] at noName
  have noInfinity : ¬(cs.map Char.toLower == "inf".toList ||
      cs.map Char.toLower == "infinity".toList) = true := by
    simp only [Bool.or_eq_true, beq_iff_eq, not_or]
    exact ⟨noName.1, noName.2.1⟩
  have noNan : ¬(cs.map Char.toLower == "nan".toList) = true := by
    simp only [beq_iff_eq]
    exact noName.2.2
  unfold unsigned?
  dsimp only
  rw [if_neg noInfinity, if_neg noNan]
  rfl

theorem isSome_unsigned?_iff {negative : Bool} {cs : List Char} :
    (unsigned? negative cs).isSome = true ↔ Unsigned cs := by
  by_cases isName : IsName cs
  · exact ⟨fun _ => .name isName, fun _ => isSome_unsigned?_of_isName negative isName⟩
  rcases taken : mantissaDigits cs with ⟨ds, tail⟩
  rw [unsigned?_of_not_isName negative isName, taken]
  dsimp only
  constructor
  · intro isSome
    split at isSome
    · cases isSome
    · rename_i some_digit
      obtain ⟨mantissa, isMantissa, rfl⟩ :=
        mantissa_of_mantissaDigits taken (by simpa using some_digit)
      exact .number isMantissa (isSome_exponent?_iff.mp (by simpa using isSome))
  · rintro (absurdly | ⟨isMantissa, isExponent⟩)
    · exact absurd absurdly isName
    · obtain ⟨d, ds', taken'⟩ := isMantissa.mantissaDigits_append isExponent
      rw [taken'] at taken
      cases taken
      simpa using isSome_exponent?_iff.mpr isExponent

theorem IsName.head? {cs : List Char} (isName : IsName cs) :
    ∀ c ∈ cs.head?, c.toLower = 'i' ∨ c.toLower = 'n' := by
  intro c first
  cases cs with
  | nil => cases first
  | cons d cs =>
      cases first
      rcases isName with same | same | same
      · exact .inl (List.cons.inj same).1
      · exact .inl (List.cons.inj same).1
      · exact .inr (List.cons.inj same).1

theorem Mantissa.head? {cs : List Char} (isMantissa : Mantissa cs) :
    ∃ c rest, cs = c :: rest ∧ (c = '.' ∨ Text.isDigit c = true) := by
  have front {whole : List Char} (isDigits : Digits whole) (behind : List Char) :
      ∃ c rest, whole ++ behind = c :: rest ∧ (c = '.' ∨ Text.isDigit c = true) := by
    obtain ⟨c, rest, rfl⟩ := List.exists_cons_of_ne_nil isDigits.ne_nil
    exact ⟨c, rest ++ behind, rfl, .inr (isDigits.head? c rfl)⟩
  cases isMantissa with
  | whole isDigits => simpa using front isDigits []
  | wholePoint isDigits => exact front isDigits _
  | fraction => exact ⟨'.', _, rfl, .inl rfl⟩
  | both isWhole => exact front isWhole _

theorem Unsigned.ne_sign {cs : List Char} (isUnsigned : Unsigned cs) :
    ∀ c ∈ cs.head?, c ≠ '-' ∧ c ≠ '+' := by
  intro c first
  cases isUnsigned with
  | name isName =>
      have letter := isName.head? c first
      constructor <;> rintro rfl <;> revert letter <;> decide
  | number isMantissa =>
      obtain ⟨d, rest, rfl, kind⟩ := isMantissa.head?
      cases first
      rcases kind with rfl | digit
      · decide
      · exact ne_sign_of_isDigit digit

/-- A text is read as a double exactly if it spells one, blanks around it left aside. -/
theorem isSome_ofText?_iff {s : String} :
    (ofText? s).isSome = true ↔ Spelled (Text.stripChars Text.isBlankByNumber s.toList) := by
  rw [ofText?]
  generalize Text.stripChars Text.isBlankByNumber s.toList = cs
  dsimp only
  rw [isSome_unsigned?_iff]
  constructor
  · intro isUnsigned
    obtain ⟨sign, isSign, whole⟩ := sign_of_splitSign cs
    rw [whole]
    exact .signed isSign isUnsigned
  · rintro ⟨isSign, isUnsigned⟩
    rwa [splitSign_append isSign isUnsigned.ne_sign]

end Bazaar.Decimal
