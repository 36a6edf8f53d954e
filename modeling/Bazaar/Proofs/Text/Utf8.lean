import Bazaar.Text.Bytes

/-!
# Texts through UTF-8

The bytes of a character are taken as that character, whatever follows them.  Strict reading
therefore gives back every text that was written as UTF-8.
-/

namespace Bazaar.Text

theorem toNat_ofNat_of_lt {n : Nat} (byte : n < 256) : (UInt8.ofNat n).toNat = n :=
  Nat.mod_eq_of_lt byte

/-! ## The bytes at the front -/

section Front

variable {first : Nat} {b c d : UInt8} {rest : List UInt8}

theorem utf8Front_one (ascii : first < 0x80) :
    utf8Front first rest = (1, .ok (Char.ofNat first)) := by
  unfold utf8Front
  rw [if_pos ascii]

/-- A first byte that is neither ASCII nor impossible. -/
theorem utf8Front_longer (atLeast : 0xC2 ≤ first) (atMost : first ≤ 0xF4) :
    ¬first < 0x80 ∧ ¬(first < 0xC2 || 0xF4 < first) = true := by
  simp
  omega

theorem utf8Front_two (atLeast : 0xC2 ≤ first) (below : first < 0xE0)
    (fits : secondByteFits first b.toNat = true) :
    utf8Front first (b :: rest) =
      (2, .ok (Char.ofNat ((first - 0xC0) * 64 + (b.toNat - 0x80)))) := by
  obtain ⟨notAscii, possible⟩ := utf8Front_longer atLeast (by omega)
  simp [utf8Front, notAscii, possible, fits, below]

theorem utf8Front_three (atLeast : 0xE0 ≤ first) (below : first < 0xF0)
    (fits : secondByteFits first b.toNat = true) (continues : isContinuation c = true) :
    utf8Front first (b :: c :: rest) =
      (3, .ok (Char.ofNat
        (((first - 0xE0) * 64 + (b.toNat - 0x80)) * 64 + (c.toNat - 0x80)))) := by
  obtain ⟨notAscii, possible⟩ : ¬first < 0x80 ∧ ¬(first < 0xC2 || 0xF4 < first) = true :=
    utf8Front_longer (by omega) (by omega)
  have notTwo : ¬first < 0xE0 := by omega
  simp [utf8Front, notAscii, possible, fits, continues, notTwo, below]

theorem utf8Front_four (atLeast : 0xF0 ≤ first) (atMost : first ≤ 0xF4)
    (fits : secondByteFits first b.toNat = true) (continues : isContinuation c = true)
    (continues' : isContinuation d = true) :
    utf8Front first (b :: c :: d :: rest) =
      (4, .ok (Char.ofNat
        ((((first - 0xF0) * 64 + (b.toNat - 0x80)) * 64 + (c.toNat - 0x80)) * 64 +
          (d.toNat - 0x80)))) := by
  obtain ⟨notAscii, possible⟩ : ¬first < 0x80 ∧ ¬(first < 0xC2 || 0xF4 < first) = true :=
    utf8Front_longer (by omega) atMost
  have notTwo : ¬first < 0xE0 := by omega
  have notThree : ¬first < 0xF0 := by omega
  simp [utf8Front, notAscii, possible, fits, continues, continues', notTwo, notThree]

end Front

theorem secondByteFits_iff {first second : Nat} :
    secondByteFits first second = true ↔ second / 64 = 2 ∧ (first = 0xE0 → 0xA0 ≤ second) ∧
      (first = 0xED → second < 0xA0) ∧ (first = 0xF0 → 0x90 ≤ second) ∧
      (first = 0xF4 → second < 0x90) := by
  unfold secondByteFits
  simp only [Bool.and_eq_true, beq_iff_eq, and_congr_right_iff]
  intro continues
  by_cases e0 : first = 0xE0
  · simp [e0]
  by_cases ed : first = 0xED
  · simp [ed]
  by_cases f0 : first = 0xF0
  · simp [f0]
  by_cases f4 : first = 0xF4
  · simp [f4]
  · simp [e0, ed, f0, f4]

/-! ## Characters -/

theorem isContinuation_ofNat (n : Nat) : isContinuation (UInt8.ofNat (0x80 + n % 64)) = true := by
  rw [isContinuation, toNat_ofNat_of_lt (by omega)]
  simp
  omega

/-- The bytes of a character are read as that character. -/
theorem utf8Front_utf8Char (c : Char) (rest : List UInt8) :
    ∃ b bs, utf8Char c = b :: bs ∧ utf8Front b.toNat (bs ++ rest) = (bs.length + 1, .ok c) := by
  have valid : c.toNat < 0xD800 ∨ 0xDFFF < c.toNat ∧ c.toNat < 0x110000 := c.valid
  have same {n : Nat} (spelled : n = c.toNat) : Char.ofNat n = c := by
    rw [spelled, Char.ofNat_toNat]
  have tail (n : Nat) : (UInt8.ofNat (0x80 + n % 64)).toNat = 0x80 + n % 64 :=
    toNat_ofNat_of_lt (by omega)
  by_cases one : c.toNat < 0x80
  · refine ⟨_, [], if_pos one, ?_⟩
    rw [toNat_ofNat_of_lt (by omega), utf8Front_one one, same rfl]
    rfl
  by_cases two : c.toNat < 0x800
  · refine ⟨_, [_], by rw [utf8Char, if_neg one, if_pos two], ?_⟩
    rw [toNat_ofNat_of_lt (by omega), List.cons_append, utf8Front_two (by omega) (by omega)
      (by rw [secondByteFits_iff, tail]; omega), tail, same (by omega)]
    rfl
  by_cases three : c.toNat < 0x10000
  · refine ⟨_, [_, _], by rw [utf8Char, if_neg one, if_neg two, if_pos three], ?_⟩
    rw [toNat_ofNat_of_lt (by omega), List.cons_append, List.cons_append,
      utf8Front_three (by omega) (by omega) (by rw [secondByteFits_iff, tail]; omega)
        (isContinuation_ofNat _), tail, tail, same (by omega)]
    rfl
  · refine ⟨_, [_, _, _], by rw [utf8Char, if_neg one, if_neg two, if_neg three], ?_⟩
    rw [toNat_ofNat_of_lt (by omega), List.cons_append, List.cons_append, List.cons_append,
      utf8Front_four (by omega) (by omega) (by rw [secondByteFits_iff, tail]; omega)
        (isContinuation_ofNat _) (isContinuation_ofNat _), tail, tail, tail, same (by omega)]
    rfl

/-! ## Texts -/

variable {σ : Type} (ofChar : Char → σ) (ofHalf? : Nat → Option σ)

theorem decodeUtf8From_skip (position : Nat) (bs rest : List UInt8) :
    decodeUtf8From ofChar ofHalf? position bs.length (bs ++ rest) =
      decodeUtf8From ofChar ofHalf? (position + bs.length) 0 rest := by
  induction bs generalizing position with
  | nil => rfl
  | cons b bs ih =>
      rw [List.length_cons, List.cons_append, decodeUtf8From, ih]
      congr 1
      omega

theorem decodeUtf8From_utf8 (position : Nat) (cs : List Char) :
    decodeUtf8From ofChar ofHalf? position 0 (utf8 cs) = .ok (cs.map ofChar) := by
  induction cs generalizing position with
  | nil => rfl
  | cons c cs ih =>
      obtain ⟨b, bs, bytes, front⟩ := utf8Front_utf8Char c (utf8 cs)
      have split : utf8 (c :: cs) = b :: (bs ++ utf8 cs) := by
        rw [utf8, List.flatMap_cons, bytes]
        rfl
      rw [split, decodeUtf8From, front]
      simp only [Nat.add_sub_cancel, decodeUtf8From_skip, ih]
      rfl

/-- A text written as UTF-8 is read again. -/
theorem decodeUtf8_utf8 (cs : List Char) : decodeUtf8 (utf8 cs) = .ok cs := by
  rw [decodeUtf8, decodeUtf8From_utf8, List.map_id]

theorem decodeWideUtf8_utf8 (cs : List Char) :
    decodeWideUtf8 (utf8 cs) = .ok (Phrase.ofChars cs) :=
  decodeUtf8From_utf8 Sign.char (fun n => some (Sign.ofCode n)) 0 cs

end Bazaar.Text
