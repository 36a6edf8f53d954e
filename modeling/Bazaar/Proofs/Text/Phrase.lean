import Bazaar.Text.Phrase
import Mathlib.Data.List.Basic

/-!
# Phrases and their texts

A phrase stands for a text exactly if it has no halves of characters, and then for one text only.
What is written of a phrase is that text.
-/

namespace Bazaar

namespace Sign

@[simp]
theorem char_char? (c : Char) : char? (.char c) = some c :=
  rfl

@[simp]
theorem isHalf_char (c : Char) : isHalf (.char c) = false :=
  rfl

@[simp]
theorem isHalf_half (h : Half) : isHalf (.half h) = true :=
  rfl

theorem isHalf_eq_false_iff {s : Sign} : s.isHalf = false ↔ ∃ c, s = .char c := by
  cases s <;> simp [isHalf, half?]

/-- A code point is kept by its sign, be it half of a pair or a character. -/
theorem ofCode_eq_char {n : Nat} (whole : ¬(0xD800 ≤ n ∧ n < 0xE000)) :
    ofCode n = .char (Char.ofNat n) :=
  dif_neg whole

end Sign

namespace Phrase

variable {p q : Phrase} {s t : String} {cs ds : List Char}

/-- Whether a phrase has no halves of characters. -/
def IsWhole (p : Phrase) : Prop :=
  ∀ s ∈ p, s.isHalf = false

instance : DecidablePred IsWhole :=
  fun p => inferInstanceAs (Decidable (∀ s ∈ p, s.isHalf = false))

@[simp]
theorem ofChars_nil : ofChars [] = [] :=
  rfl

@[simp]
theorem ofChars_cons (c : Char) (cs : List Char) : ofChars (c :: cs) = .char c :: ofChars cs :=
  rfl

@[simp]
theorem ofChars_append (cs ds : List Char) : ofChars (cs ++ ds) = ofChars cs ++ ofChars ds :=
  List.map_append

@[simp]
theorem length_ofChars (cs : List Char) : (ofChars cs).length = cs.length :=
  List.length_map _

theorem ofChars_injective : Function.Injective ofChars :=
  List.map_injective_iff.mpr fun _ _ same => Sign.char.inj same

@[simp]
theorem ofChars_inj : ofChars cs = ofChars ds ↔ cs = ds :=
  ofChars_injective.eq_iff

@[simp]
theorem ofString_inj : ofString s = ofString t ↔ s = t := by
  rw [ofString, ofString, ofChars_inj, String.toList_inj]

@[simp]
theorem ofString_append (s t : String) : ofString (s ++ t) = ofString s ++ ofString t := by
  simp [ofString]

/-! ## Texts of phrases -/

theorem mapM_char?_eq_some_iff : p.mapM Sign.char? = some cs ↔ p = ofChars cs := by
  induction p generalizing cs with
  | nil => cases cs <;> simp
  | cons s p ih =>
      cases s with
      | half h => cases cs <;> simp [Sign.char?]
      | char c =>
          cases cs with
          | nil => simp [Option.bind_eq_some_iff]
          | cons d cs => simp [Option.bind_eq_some_iff, ih, and_comm]

theorem string?_eq_some_iff : p.string? = some s ↔ p = ofString s := by
  rw [string?, Option.map_eq_some_iff]
  constructor
  · rintro ⟨cs, found, rfl⟩
    rw [mapM_char?_eq_some_iff.mp found, ofString, String.toList_ofList]
  · intro same
    exact ⟨s.toList, mapM_char?_eq_some_iff.mpr same, String.ofList_toList⟩

@[simp]
theorem string?_ofString (s : String) : (ofString s).string? = some s :=
  string?_eq_some_iff.mpr rfl

theorem isWhole_ofChars (cs : List Char) : IsWhole (ofChars cs) := by
  intro s member
  obtain ⟨c, -, rfl⟩ := List.mem_map.mp member
  rfl

@[simp]
theorem isWhole_nil : IsWhole [] :=
  isWhole_ofChars []

@[simp]
theorem isWhole_cons {s : Sign} : IsWhole (s :: p) ↔ s.isHalf = false ∧ IsWhole p :=
  List.forall_mem_cons

@[simp]
theorem isWhole_append : IsWhole (p ++ q) ↔ IsWhole p ∧ IsWhole q :=
  List.forall_mem_append

/-- The phrases without halves are those that stand for a text. -/
theorem isWhole_iff : IsWhole p ↔ ∃ s : String, p = s := by
  constructor
  · intro whole
    have chars : ∃ cs, p = ofChars cs := by
      induction p with
      | nil => exact ⟨[], rfl⟩
      | cons s p ih =>
          obtain ⟨c, rfl⟩ := Sign.isHalf_eq_false_iff.mp (isWhole_cons.mp whole).1
          obtain ⟨cs, rfl⟩ := ih (isWhole_cons.mp whole).2
          exact ⟨c :: cs, rfl⟩
    obtain ⟨cs, rfl⟩ := chars
    exact ⟨String.ofList cs, by rw [ofString, String.toList_ofList]⟩
  · rintro ⟨s, rfl⟩
    exact isWhole_ofChars s.toList

theorem string?_eq_none_iff : p.string? = none ↔ ¬IsWhole p := by
  rw [isWhole_iff, Option.eq_none_iff_forall_ne_some, not_exists]
  exact forall_congr' fun s => not_congr string?_eq_some_iff

/-! ## Writing -/

/-- A phrase is written exactly if it has no halves. -/
theorem write_eq_ok_iff : p.write = .ok s ↔ p = ofString s := by
  rw [← string?_eq_some_iff, write]
  cases p.string? <;> simp

@[simp]
theorem write_ofString (s : String) : (ofString s).write = .ok s :=
  write_eq_ok_iff.mpr rfl

theorem write_eq_error_iff {e : HalfError} :
    p.write = .error e ↔ ¬IsWhole p ∧ e = p.halfError := by
  rw [← string?_eq_none_iff, write]
  cases p.string? <;> simp [eq_comm]

theorem exists_write_iff : (∃ s, p.write = .ok s) ↔ IsWhole p := by
  rw [isWhole_iff]
  exact exists_congr fun s => write_eq_ok_iff

end Phrase

end Bazaar
