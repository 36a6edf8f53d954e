import Bazaar.Proofs.Text.Utf8
import Bazaar.Query.Percent

/-!
# Texts through percent-encoding

An encoded text holds unreserved characters and percent signs alone, and decoding it gives the
bytes of the text back.
-/

namespace Bazaar.Percent

/-! ## Bytes -/

theorem hexValue?_hexDigit {n : Nat} (digit : n < 16) : Text.hexValue? (hexDigit n) = some n := by
  have table : ∀ n < 16, Text.hexValue? (hexDigit n) = some n := by decide
  exact table n digit

theorem isUnreserved_hexDigit {n : Nat} (digit : n < 16) : isUnreserved (hexDigit n) = true := by
  have table : ∀ n < 16, isUnreserved (hexDigit n) = true := by decide
  exact table n digit

/-- An encoded byte is written with a percent sign and digits. -/
theorem mem_byteChars {b : UInt8} {c : Char} (member : c ∈ byteChars b) :
    isUnreserved c = true ∨ c = '%' := by
  have byte : b.toNat < 256 := b.toNat_lt
  simp only [byteChars, List.mem_cons, List.not_mem_nil, or_false] at member
  rcases member with rfl | rfl | rfl
  · exact .inr rfl
  · exact .inl (isUnreserved_hexDigit (by omega))
  · exact .inl (isUnreserved_hexDigit (by omega))

theorem bytes_byteChars (b : UInt8) (rest : List Char) :
    bytes (byteChars b ++ rest) = b :: bytes rest := by
  have byte : b.toNat < 256 := b.toNat_lt
  have high := hexValue?_hexDigit (show b.toNat / 16 < 16 by omega)
  have low := hexValue?_hexDigit (show b.toNat % 16 < 16 by omega)
  have whole : b.toNat / 16 * 16 + b.toNat % 16 = b.toNat := by omega
  simp only [byteChars, List.cons_append, List.nil_append, bytes, high, low, whole,
    UInt8.ofNat_toNat]

theorem bytes_flatMap_byteChars (bs : List UInt8) (rest : List Char) :
    bytes (bs.flatMap byteChars ++ rest) = bs ++ bytes rest := by
  induction bs with
  | nil => rfl
  | cons b bs ih => rw [List.flatMap_cons, List.append_assoc, bytes_byteChars, ih, List.cons_append]

/-! ## Characters -/

theorem toNat_lt_of_isUnreserved {c : Char} (unreserved : isUnreserved c = true) :
    c.toNat < 128 := by
  have below {last : Char} (small : last.toNat < 128) (inside : c.val ≤ last.val) : c.toNat < 128 :=
    Nat.lt_of_le_of_lt (UInt32.le_iff_toNat_le.mp inside) small
  simp only [isUnreserved, Bool.or_eq_true, beq_iff_eq] at unreserved
  rcases unreserved with (((alphanum | rfl) | rfl) | rfl) | rfl
  · rcases Bool.or_eq_true_iff.mp alphanum with alpha | digit
    · rcases Bool.or_eq_true_iff.mp alpha with upper | lower
      · exact below (by decide : 'Z'.toNat < 128) (of_decide_eq_true upper).2
      · exact below (by decide : 'z'.toNat < 128)
          (of_decide_eq_true (Bool.and_eq_true_iff.mp lower).2)
    · exact below (by decide : '9'.toNat < 128)
        (of_decide_eq_true (Bool.and_eq_true_iff.mp digit).2)
  all_goals decide

theorem ne_percent {c : Char} (unreserved : isUnreserved c = true) : c ≠ '%' := by
  rintro rfl
  cases unreserved

theorem bytes_cons {c : Char} (plain : c ≠ '%') (rest : List Char) :
    bytes (c :: rest) = Text.utf8Char c ++ bytes rest := by
  rw [bytes]
  rintro a b rest rfl
  exact absurd rfl plain

theorem bytes_encodeChar (c : Char) (rest : List Char) :
    bytes (encodeChar c ++ rest) = Text.utf8Char c ++ bytes rest := by
  unfold encodeChar
  split
  · rename_i unreserved
    exact bytes_cons (ne_percent unreserved) rest
  · exact bytes_flatMap_byteChars _ rest

/-- An encoded text stands for the bytes of the text. -/
theorem bytes_encodeChars (cs : List Char) : bytes (encodeChars cs) = Text.utf8 cs := by
  induction cs with
  | nil => rfl
  | cons c cs ih =>
      rw [encodeChars, List.flatMap_cons, bytes_encodeChar, ← encodeChars, ih]
      rfl

theorem encodeChars_injective : Function.Injective encodeChars := by
  intro cs ds same
  have bytes := congrArg bytes same
  rw [bytes_encodeChars, bytes_encodeChars] at bytes
  have decoded := congrArg Text.decodeUtf8 bytes
  rw [Text.decodeUtf8_utf8, Text.decodeUtf8_utf8] at decoded
  exact Except.ok.inj decoded

/-- An encoded text holds nothing but unreserved characters and percent signs. -/
theorem mem_encodeChars {cs : List Char} {c : Char} (member : c ∈ encodeChars cs) :
    isUnreserved c = true ∨ c = '%' := by
  obtain ⟨d, -, encoded⟩ := List.mem_flatMap.mp member
  unfold encodeChar at encoded
  split at encoded
  · rename_i unreserved
    obtain rfl := List.mem_singleton.mp encoded
    exact .inl unreserved
  · obtain ⟨b, -, digit⟩ := List.mem_flatMap.mp encoded
    exact mem_byteChars digit

end Bazaar.Percent
