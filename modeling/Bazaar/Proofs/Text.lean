import Bazaar.Text.Blank
import Bazaar.Text.Line
import Bazaar.Text.Order
import Mathlib.Data.List.DropRight
import Mathlib.Data.String.Basic

/-!
# Parts and order of texts

What comes off the front and the ends of a text, its pieces, and texts in order.
-/

namespace Bazaar.Text

theorem after?_eq_some_iff {start cs rest : List Char} :
    after? start cs = some rest ↔ cs = start ++ rest := by
  induction start generalizing cs with
  | nil => simp [after?]
  | cons p ps ih =>
      cases cs with
      | nil => simp [after?]
      | cons c cs =>
          by_cases same : p = c
          · simp [after?, same, ih]
          · simp [after?, same, Ne.symm same]

theorem after?_append (start rest : List Char) : after? start (start ++ rest) = some rest :=
  after?_eq_some_iff.mpr rfl

theorem startsWith_iff {start cs : List Char} : startsWith start cs = true ↔ start <+: cs := by
  rw [startsWith, Option.isSome_iff_exists]
  exact exists_congr fun rest => after?_eq_some_iff.trans eq_comm

/-! ## The ends of texts -/

section Ends

variable {p : Char → Bool} {cs : List Char}

theorem stripChars_eq (p : Char → Bool) (cs : List Char) :
    stripChars p cs = (cs.dropWhile p).rdropWhile p :=
  rfl

/-- What comes off the ends of a text belongs to the class. -/
theorem exists_stripChars (p : Char → Bool) (cs : List Char) :
    ∃ before after, cs = before ++ stripChars p cs ++ after ∧
      (∀ c ∈ before, p c = true) ∧ ∀ c ∈ after, p c = true := by
  refine ⟨cs.takeWhile p, (cs.dropWhile p).rtakeWhile p, ?_,
    fun c => List.mem_takeWhile_imp, fun c => List.mem_rtakeWhile_imp⟩
  rw [stripChars_eq, List.append_assoc, List.rdropWhile_append_rtakeWhile,
    List.takeWhile_append_dropWhile]

theorem mem_of_mem_stripChars {c : Char} (member : c ∈ stripChars p cs) : c ∈ cs := by
  obtain ⟨before, after, whole, -, -⟩ := exists_stripChars p cs
  rw [whole]
  exact List.mem_append_left after (List.mem_append_right before member)

theorem mem_stripChars {c : Char} (member : c ∈ cs) (kept : p c = false) :
    c ∈ stripChars p cs := by
  obtain ⟨before, after, whole, inBefore, inAfter⟩ := exists_stripChars p cs
  rw [whole, List.mem_append, List.mem_append] at member
  rcases member with (front | inner) | back
  · simp [inBefore c front] at kept
  · exact inner
  · simp [inAfter c back] at kept

theorem stripChars_eq_nil_iff : stripChars p cs = [] ↔ ∀ c ∈ cs, p c = true := by
  constructor
  · intro empty c member
    cases kept : p c with
    | true => rfl
    | false => exact absurd (mem_stripChars member kept) (by simp [empty])
  · intro all
    rw [stripChars_eq, List.dropWhile_eq_nil_iff.mpr all, List.rdropWhile_nil]

theorem head?_stripChars : ∀ c ∈ (stripChars p cs).head?, p c = false := by
  intro c first
  have front : stripChars p cs <+: cs.dropWhile p := List.rdropWhile_prefix p _
  have same : (cs.dropWhile p).head? = some c := by
    obtain ⟨after, whole⟩ := front
    rw [← whole, List.head?_append, first]
    rfl
  have outside := List.head?_dropWhile_not p cs
  rw [same] at outside
  simpa using outside

theorem getLast?_stripChars : ∀ c ∈ (stripChars p cs).getLast?, p c = false := by
  intro c last
  rw [stripChars_eq, List.rdropWhile, List.getLast?_reverse] at last
  have outside := List.head?_dropWhile_not p (cs.dropWhile p).reverse
  rw [last] at outside
  simpa using outside

/-- What stands around a text is taken off again if the text neither begins nor ends with a
character of the class. -/
theorem stripChars_append {before core after : List Char} (inBefore : ∀ c ∈ before, p c = true)
    (inAfter : ∀ c ∈ after, p c = true) (first : ∀ c ∈ core.head?, p c = false)
    (last : ∀ c ∈ core.getLast?, p c = false) :
    stripChars p (before ++ core ++ after) = core := by
  cases core with
  | nil =>
      rw [List.append_nil, stripChars_eq_nil_iff]
      intro c member
      exact (List.mem_append.mp member).elim (inBefore c) (inAfter c)
  | cons c core =>
      have front : (before ++ (c :: core) ++ after).dropWhile p = (c :: core) ++ after := by
        rw [List.append_assoc, List.dropWhile_append_of_pos inBefore, List.cons_append,
          List.dropWhile_cons_of_neg (by simp [first c rfl])]
      have back : ((c :: core) ++ after).rdropWhile p = (c :: core).rdropWhile p := by
        rw [List.rdropWhile, List.reverse_append,
          List.dropWhile_append_of_pos (by simpa using inAfter), List.rdropWhile]
      rw [stripChars_eq, front, back, List.rdropWhile_eq_self_iff]
      intro some_char
      simp [last _ (List.getLast?_eq_some_getLast some_char)]

/-- Nothing more comes off the ends of a text if the class is narrower. -/
theorem stripChars_stripChars {q : Char → Bool} (narrower : ∀ c, q c = true → p c = true) :
    stripChars q (stripChars p cs) = stripChars p cs := by
  have outside {c : Char} (kept : p c = false) : q c = false := by
    cases inside : q c with
    | false => rfl
    | true => simp [narrower c inside] at kept
  have whole : stripChars q ([] ++ stripChars p cs ++ []) = stripChars p cs :=
    stripChars_append (by simp) (by simp) (fun c first => outside (head?_stripChars c first))
      fun c last => outside (getLast?_stripChars c last)
  simpa using whole

/-- Blanks around a text without blanks are taken off. -/
theorem trim_append {before text after : String}
    (inBefore : ∀ c ∈ before.toList, isBlank c = true)
    (inAfter : ∀ c ∈ after.toList, isBlank c = true)
    (inText : ∀ c ∈ text.toList, isBlank c = false) : trim (before ++ text ++ after) = text := by
  have inner := stripChars_append inBefore inAfter
    (fun c first => inText c (List.mem_of_head? first))
    (fun c last => inText c (List.mem_of_getLast? last))
  rw [trim, trimChars, String.toList_append, String.toList_append, inner, String.ofList_toList]

end Ends

/-! ## Pieces of texts -/

section Pieces

variable {separator : Char} {piece : List Char}

theorem splitAt_ne_nil (cs : List Char) : splitAt separator cs ≠ [] := by
  fun_cases splitAt separator cs <;> simp

/-- The pieces before a separator and those behind it. -/
theorem splitAt_append_cons (front rest : List Char) :
    splitAt separator (front ++ separator :: rest) =
      splitAt separator front ++ splitAt separator rest := by
  induction front with
  | nil => simp [splitAt]
  | cons c front ih =>
      rw [List.cons_append, splitAt, splitAt, ih]
      split
      · rfl
      · obtain ⟨first, others, found⟩ := List.exists_cons_of_ne_nil (@splitAt_ne_nil separator front)
        rw [found]
        rfl

theorem splitAt_of_not_mem (absent : separator ∉ piece) : splitAt separator piece = [piece] := by
  induction piece with
  | nil => rfl
  | cons c piece ih =>
      rw [List.mem_cons, not_or] at absent
      obtain ⟨differs, absent⟩ := absent
      rw [splitAt, if_neg (Ne.symm differs), ih absent]

theorem splitAt_append (absent : separator ∉ piece) (rest : List Char) :
    splitAt separator (piece ++ separator :: rest) = piece :: splitAt separator rest := by
  rw [splitAt_append_cons, splitAt_of_not_mem absent, List.singleton_append]

theorem joinWith_append {sep : List Char} {pieces others : List (List Char)}
    (some_piece : pieces ≠ []) (some_other : others ≠ []) :
    joinWith sep (pieces ++ others) = joinWith sep pieces ++ sep ++ joinWith sep others := by
  induction pieces with
  | nil => exact absurd rfl some_piece
  | cons piece pieces ih =>
      cases pieces with
      | nil =>
          obtain ⟨other, others, rfl⟩ := List.exists_cons_of_ne_nil some_other
          rfl
      | cons next pieces =>
          have rest := ih (List.cons_ne_nil next pieces)
          rw [List.cons_append] at rest
          rw [List.cons_append, List.cons_append, joinWith, rest]
          · simp [joinWith]
          · simp

theorem joinWith_splitAt (cs : List Char) : joinWith [separator] (splitAt separator cs) = cs := by
  fun_induction splitAt separator cs with
  | case1 => rfl
  | case2 cs ih =>
      obtain ⟨first, others, found⟩ := List.exists_cons_of_ne_nil (@splitAt_ne_nil separator cs)
      rw [found] at ih ⊢
      rw [joinWith, ih]
      · rfl
      · exact List.cons_ne_nil first others
  | case3 c cs _ noPieces => exact absurd noPieces (splitAt_ne_nil cs)
  | case4 c cs _ piece pieces found ih =>
      rw [found] at ih
      rw [← ih]
      cases pieces <;> rfl

/-- Pieces that were joined are told apart again if the separator is in none of them. -/
theorem splitAt_joinWith {pieces : List (List Char)} (some_piece : pieces ≠ [])
    (absent : ∀ p ∈ pieces, separator ∉ p) :
    splitAt separator (joinWith [separator] pieces) = pieces := by
  induction pieces with
  | nil => exact absurd rfl some_piece
  | cons piece pieces ih =>
      have own := absent piece List.mem_cons_self
      cases pieces with
      | nil => exact splitAt_of_not_mem own
      | cons next pieces =>
          rw [joinWith, List.append_assoc, List.singleton_append, splitAt_append own,
            ih (by simp) fun p member => absent p (List.mem_cons_of_mem piece member)]
          exact List.cons_ne_nil next pieces

theorem cutAt?_append (absent : separator ∉ piece) (rest : List Char) :
    cutAt? separator (piece ++ separator :: rest) = some (piece, rest) := by
  induction piece with
  | nil => simp [cutAt?]
  | cons c piece ih =>
      rw [List.mem_cons, not_or] at absent
      obtain ⟨differs, absent⟩ := absent
      rw [List.cons_append, cutAt?, if_neg (Ne.symm differs), ih absent]
      rfl

theorem cutAt?_append_of_not_mem (absent : separator ∉ piece) (rest : List Char) :
    cutAt? separator (piece ++ rest) =
      (cutAt? separator rest).map fun (before, after) => (piece ++ before, after) := by
  induction piece with
  | nil => simp
  | cons c piece ih =>
      rw [List.mem_cons, not_or] at absent
      obtain ⟨differs, absent⟩ := absent
      rw [List.cons_append, cutAt?, if_neg (Ne.symm differs), ih absent, Option.map_map]
      rfl

theorem cutAt?_eq_some_iff {cs before after : List Char} :
    cutAt? separator cs = some (before, after) ↔
      cs = before ++ separator :: after ∧ separator ∉ before := by
  refine ⟨?_, fun ⟨whole, absent⟩ => whole ▸ cutAt?_append absent after⟩
  induction cs generalizing before with
  | nil => rintro ⟨⟩
  | cons c cs ih =>
      intro cut
      rw [cutAt?] at cut
      split at cut
      · rename_i same
        cases cut
        simp [same]
      · rename_i differs
        obtain ⟨⟨before', after'⟩, there, same⟩ := Option.map_eq_some_iff.mp cut
        cases same
        obtain ⟨rfl, absent⟩ := ih there
        exact ⟨rfl, by simp [absent, Ne.symm differs]⟩

theorem cutAt?_eq_none_iff {cs : List Char} : cutAt? separator cs = none ↔ separator ∉ cs := by
  induction cs with
  | nil => simp [cutAt?]
  | cons c cs ih =>
      by_cases same : c = separator
      · simp [cutAt?, same]
      · simp [cutAt?, same, Ne.symm same, ih]

/-- The pieces hold everything but the separators. -/
theorem exists_mem_splitAt_iff {cs : List Char} {c : Char} :
    (∃ piece ∈ splitAt separator cs, c ∈ piece) ↔ c ∈ cs ∧ c ≠ separator := by
  fun_induction splitAt separator cs with
  | case1 => simp
  | case2 cs ih =>
      simp only [List.mem_cons, exists_eq_or_imp, List.not_mem_nil, false_or, ih]
      exact ⟨fun ⟨member, other⟩ => ⟨.inr member, other⟩,
        fun ⟨member, other⟩ => ⟨member.resolve_left other, other⟩⟩
  | case3 d cs differs noPieces ih =>
      rw [noPieces] at ih
      by_cases same : c = d
      · simp [same, differs]
      · simpa [same] using ih
  | case4 d cs differs piece pieces split ih =>
      rw [split] at ih
      by_cases same : c = d
      · simp [same, differs]
      · simpa [same] using ih

/-- What is in joined pieces is in one of them or in the separator. -/
theorem mem_joinWith {sep : List Char} {pieces : List (List Char)} {c : Char}
    (member : c ∈ joinWith sep pieces) : (∃ p ∈ pieces, c ∈ p) ∨ c ∈ sep := by
  fun_induction joinWith sep pieces with
  | case1 => cases member
  | case2 piece => exact .inl ⟨piece, List.mem_singleton_self piece, member⟩
  | case3 piece pieces _ ih =>
      rcases List.mem_append.mp member with front | later
      · exact (List.mem_append.mp front).imp_left fun own => ⟨piece, List.mem_cons_self, own⟩
      · exact (ih later).imp_left fun ⟨p, among, own⟩ => ⟨p, List.mem_cons_of_mem piece among, own⟩

end Pieces

/-! ## The order of texts -/

theorem charsBefore_nil (cs : List Char) : charsBefore cs [] = false :=
  List.lex_nil

theorem charsBefore_cons_eq_false_iff {c d : Char} {cs ds : List Char} :
    charsBefore (c :: cs) (d :: ds) = false ↔
      d.toNat < c.toNat ∨ (c = d ∧ charsBefore cs ds = false) := by
  have unfolded : charsBefore (c :: cs) (d :: ds) =
      (decide (c.toNat < d.toNat) || (c == d && charsBefore cs ds)) := rfl
  rw [unfolded, Bool.or_eq_false_iff, decide_eq_false_iff_not, Nat.not_lt, Bool.and_eq_false_iff,
    beq_eq_false_iff_ne]
  constructor
  · rintro ⟨atMost, differs | inOrder⟩
    · have differs' : d.toNat ≠ c.toNat := fun same => differs (Char.toNat_inj.mp same).symm
      exact .inl (Nat.lt_of_le_of_ne atMost differs')
    · rcases Nat.eq_or_lt_of_le atMost with same | below
      · exact .inr ⟨(Char.toNat_inj.mp same).symm, inOrder⟩
      · exact .inl below
  · rintro (below | ⟨rfl, inOrder⟩)
    · refine ⟨Nat.le_of_lt below, .inl ?_⟩
      rintro rfl
      exact Nat.lt_irrefl _ below
    · exact ⟨Nat.le_refl _, .inr inOrder⟩

theorem not_charsBefore_total (cs ds : List Char) :
    charsBefore ds cs = false ∨ charsBefore cs ds = false := by
  induction cs generalizing ds with
  | nil => exact .inl (charsBefore_nil ds)
  | cons c cs ih =>
      cases ds with
      | nil => exact .inr (charsBefore_nil (c :: cs))
      | cons d ds =>
          simp only [charsBefore_cons_eq_false_iff]
          rcases Nat.lt_trichotomy c.toNat d.toNat with below | same | above
          · exact .inl (.inl below)
          · obtain rfl := Char.toNat_inj.mp same
            exact (ih ds).imp (fun inOrder => .inr ⟨rfl, inOrder⟩)
              fun inOrder => .inr ⟨rfl, inOrder⟩
          · exact .inr (.inl above)

theorem not_charsBefore_trans {as bs cs : List Char} (first : charsBefore bs as = false)
    (second : charsBefore cs bs = false) : charsBefore cs as = false := by
  induction as generalizing bs cs with
  | nil => exact charsBefore_nil cs
  | cons a as ih =>
      match bs, cs with
      | [], _ => cases first
      | _ :: _, [] => cases second
      | b :: bs, c :: cs =>
          rw [charsBefore_cons_eq_false_iff] at first second ⊢
          rcases first with below | ⟨rfl, first⟩
          · rcases second with below' | ⟨rfl, -⟩
            · exact .inl (Nat.lt_trans below below')
            · exact .inl below
          · rcases second with below | ⟨rfl, second⟩
            · exact .inl below
            · exact .inr ⟨rfl, ih first second⟩

/-- Texts in order are the same texts, none in front of one that comes before it. -/
theorem sorted_perm (texts : List String) : (sorted texts).Perm texts :=
  List.mergeSort_perm _ _

theorem sorted_pairwise (texts : List String) :
    (sorted texts).Pairwise fun s t => isBefore t s = false := by
  have ordered : (sorted texts).Pairwise fun s t => (!isBefore t s) = true :=
    List.pairwise_mergeSort
      (fun s t u => by simpa [isBefore] using not_charsBefore_trans)
      (fun s t => by simpa [isBefore] using not_charsBefore_total s.toList t.toList) _
  exact ordered.imp fun inOrder => by simpa using inOrder

/-- The order of texts is the usual one, character by character. -/
theorem isBefore_iff_lt {s t : String} : isBefore s t = true ↔ s < t := by
  rw [isBefore, charsBefore, before, List.lex_eq_true_iff_lex, String.lt_iff_toList_lt]
  simp only [decide_eq_true_eq]
  exact Iff.rfl

theorem isBefore_eq_false_iff_le {s t : String} : isBefore t s = false ↔ s ≤ t := by
  rw [← Bool.not_eq_true, isBefore_iff_lt, not_lt]

theorem sorted_pairwise_le (texts : List String) : (sorted texts).Pairwise (· ≤ ·) :=
  (sorted_pairwise texts).imp isBefore_eq_false_iff_le.mp

/-- The same texts have one arrangement that is in order. -/
theorem eq_sorted_of_perm {texts texts' : List String} (ordered : texts.Pairwise (· ≤ ·))
    (same : texts.Perm texts') : texts = sorted texts' := by
  have perm : texts.Perm (sorted texts') := same.trans (sorted_perm texts').symm
  exact perm.eq_of_pairwise (fun _ _ _ _ => le_antisymm) ordered (sorted_pairwise_le texts')

end Bazaar.Text
