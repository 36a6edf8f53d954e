import Bazaar.Proofs.Outcome
import Bazaar.Proofs.Query.Percent
import Bazaar.Proofs.Text
import Bazaar.Transport.WireRequest

/-!
# Where the queries of an index go

The address of an index below a base goes on behind the path of the base with the encoded name of
the index.  A name of one or two dots is taken for a step within the path and gets lost there,
unless the base has a query, behind which nothing is a path any more.
-/

namespace Bazaar

namespace Address

/-! ## Characters -/

section Characters

variable {allowed : Char → Bool} {cs ds : List Char} {c : Char}

theorem encodeOutside_append :
    encodeOutside allowed (cs ++ ds) = encodeOutside allowed cs ++ encodeOutside allowed ds :=
  List.flatMap_append

theorem encodeOutside_cons_of_allowed (isAllowed : allowed c = true) :
    encodeOutside allowed (c :: cs) = c :: encodeOutside allowed cs := by
  simp [encodeOutside, isAllowed]

theorem encodeOutside_of_allowed (all : ∀ c ∈ cs, allowed c = true) :
    encodeOutside allowed cs = cs := by
  induction cs with
  | nil => rfl
  | cons c cs ih =>
      obtain ⟨isAllowed, rest⟩ := List.forall_mem_cons.mp all
      rw [encodeOutside_cons_of_allowed isAllowed, ih rest]

/-- What is encoded holds allowed characters and those of encoded bytes. -/
theorem mem_encodeOutside (member : c ∈ encodeOutside allowed cs) :
    allowed c = true ∨ Percent.isUnreserved c = true ∨ c = '%' := by
  obtain ⟨d, -, encoded⟩ := List.mem_flatMap.mp member
  split at encoded
  · rename_i isAllowed
    obtain rfl := List.mem_singleton.mp encoded
    exact .inl isAllowed
  · obtain ⟨b, -, digit⟩ := List.mem_flatMap.mp encoded
    exact .inr (Percent.mem_byteChars digit)

/-- An encoded name can stand everywhere behind the host of an address. -/
theorem isPathChar_of_unreserved (unreserved : Percent.isUnreserved c = true) :
    isPathChar c = true ∧ isQueryChar c = true := by
  have table : ∀ n < 128, Percent.isUnreserved (Char.ofNat n) = true →
      isPathChar (Char.ofNat n) = true ∧ isQueryChar (Char.ofNat n) = true := by decide +kernel
  have small := table c.toNat (Percent.toNat_lt_of_isUnreserved unreserved)
  rw [Char.ofNat_toNat] at small
  exact small unreserved

theorem isPathChar_of_mem (member : c ∈ encodeOutside isPathChar cs) : isPathChar c = true := by
  rcases mem_encodeOutside member with isAllowed | unreserved | rfl
  · exact isAllowed
  · exact (isPathChar_of_unreserved unreserved).1
  · decide

theorem isQueryChar_of_mem (member : c ∈ encodeOutside isQueryChar cs) : isQueryChar c = true := by
  rcases mem_encodeOutside member with isAllowed | unreserved | rfl
  · exact isAllowed
  · exact (isPathChar_of_unreserved unreserved).2
  · decide

theorem isControl_of_printableBut {marks : String} (printable : printableBut marks c = true) :
    WrittenAddress.isControl c = false := by
  simp only [printableBut, Bool.and_eq_true, decide_eq_true_eq, Char.le_def, UInt32.le_iff_toNat_le]
    at printable
  obtain ⟨⟨above, below⟩, -⟩ := printable
  have low : 0x20 ≤ c.toNat := above
  have high : c.toNat ≤ 0x7E := below
  simp only [WrittenAddress.isControl, Bool.or_eq_false_iff, decide_eq_false_iff_not,
    beq_eq_false_iff_ne]
  omega

end Characters

/-! ## Parts of a path -/

section Parts

variable {parts rest : List (List Char)} {part : List Char}

/-- A part of a path that is a step within it. -/
def IsStep (part : List Char) : Prop :=
  part = ['.'] ∨ part = ['.', '.']

theorem addPart_of_not_isStep {done : List (List Char)} (plain : ¬IsStep part) :
    addPart done part = part :: done := by
  rw [IsStep, not_or] at plain
  simp [addPart, plain.1, plain.2]

theorem foldl_addPart_of_plain {done : List (List Char)} (plain : ∀ p ∈ rest, ¬IsStep p) :
    rest.foldl addPart done = rest.reverse ++ done := by
  induction rest generalizing done with
  | nil => rfl
  | cons part rest ih =>
      obtain ⟨first, others⟩ := List.forall_mem_cons.mp plain
      rw [List.foldl_cons, addPart_of_not_isStep first, ih others]
      simp

/-- Parts that are no steps stay behind whatever is left of those before them. -/
theorem dropDots_append (plain : ∀ p ∈ rest, ¬IsStep p) :
    dropDots (parts ++ rest) = dropDots parts ++ rest := by
  rw [dropDots, List.foldl_append, foldl_addPart_of_plain plain]
  simp [dropDots]

/-- One dot is passed over. -/
theorem dropDots_dot : dropDots (parts ++ ['.'] :: rest) = dropDots (parts ++ rest) := by
  simp [dropDots, addPart]

/-- Two dots take a part away. -/
theorem dropDots_twoDots (plain : ¬IsStep part) (filled : part ≠ []) :
    dropDots (parts ++ part :: ['.', '.'] :: rest) = dropDots (parts ++ rest) := by
  have taken (done : List (List Char)) : addPart (part :: done) ['.', '.'] = done := by
    simp [addPart, filled]
  simp [dropDots, addPart_of_not_isStep plain, taken]

/-- The front of a path that starts with a slash is never taken away. -/
theorem exists_addPart_eq {front : List (List Char)} :
    ∃ front', addPart (front ++ [[]]) part = front' ++ [[]] := by
  unfold addPart
  split
  · exact ⟨front, rfl⟩
  split
  · cases front with
    | nil => exact ⟨[], rfl⟩
    | cons p front => exact ⟨front, by simp⟩
  · exact ⟨part :: front, rfl⟩

theorem exists_dropDots_eq (parts : List (List Char)) :
    ∃ others, dropDots ([] :: parts) = [] :: others := by
  suffices kept : ∀ front, ∃ front', parts.foldl addPart (front ++ [[]]) = front' ++ [[]] by
    obtain ⟨front', whole⟩ := kept []
    refine ⟨front'.reverse, ?_⟩
    rw [dropDots, List.foldl_cons, addPart_of_not_isStep (by simp [IsStep])]
    exact (congrArg List.reverse whole).trans (by simp)
  induction parts with
  | nil => exact fun front => ⟨front, rfl⟩
  | cons part parts ih =>
      intro front
      obtain ⟨front', same⟩ := @exists_addPart_eq part front
      rw [List.foldl_cons, same]
      exact ih front'

end Parts

/-! ## Paths -/

/-- A path behind a scheme: without steps, and encoded. -/
def cleanPath (cs : List Char) : List Char :=
  encodeOutside isPathChar (Text.joinWith ['/'] (dropDots (Text.splitAt '/' cs)))

/-- Whether a path is empty or starts with a slash. -/
def IsRooted (cs : List Char) : Prop :=
  ∀ c ∈ cs.head?, c = '/'

section Paths

variable {front tail : List Char}

theorem exists_splitAt_eq (rooted : IsRooted front) :
    ∃ others, Text.splitAt '/' front = [] :: others := by
  cases front with
  | nil => exact ⟨[], rfl⟩
  | cons c front =>
      obtain rfl : c = '/' := rooted c rfl
      exact ⟨Text.splitAt '/' front, by simp [Text.splitAt]⟩

theorem dropDots_splitAt_ne_nil (rooted : IsRooted front) :
    dropDots (Text.splitAt '/' front) ≠ [] := by
  obtain ⟨others, found⟩ := exists_splitAt_eq rooted
  obtain ⟨kept, same⟩ := exists_dropDots_eq others
  rw [found, same]
  exact List.cons_ne_nil [] kept

theorem isRooted_cleanPath (rooted : IsRooted front) : IsRooted (cleanPath front) := by
  obtain ⟨others, found⟩ := exists_splitAt_eq rooted
  obtain ⟨kept, same⟩ := exists_dropDots_eq others
  have slash : isPathChar '/' = true := by decide
  rw [cleanPath, found, same]
  cases kept with
  | nil => nofun
  | cons part kept =>
      rw [Text.joinWith, List.nil_append, List.singleton_append, encodeOutside_cons_of_allowed slash]
      · exact fun c first => (Option.some.inj first).symm
      · exact List.cons_ne_nil part kept

/-- What parts come to behind a path, once the steps among them are taken. -/
theorem cleanPath_of_dropDots {kept : List (List Char)} (rooted : IsRooted front)
    (some_kept : kept ≠ [])
    (steps : dropDots (Text.splitAt '/' front ++ Text.splitAt '/' tail) =
      dropDots (Text.splitAt '/' front) ++ kept) :
    cleanPath (front ++ '/' :: tail) =
      cleanPath front ++ '/' :: encodeOutside isPathChar (Text.joinWith ['/'] kept) := by
  have slash : isPathChar '/' = true := by decide
  rw [cleanPath, Text.splitAt_append_cons, steps,
    Text.joinWith_append (dropDots_splitAt_ne_nil rooted) some_kept, List.append_assoc,
    List.singleton_append, encodeOutside_append, encodeOutside_cons_of_allowed slash, cleanPath]

/-- A path goes on with all that follows if there are no steps in it. -/
theorem cleanPath_append (rooted : IsRooted front)
    (plain : ∀ p ∈ Text.splitAt '/' tail, ¬IsStep p) :
    cleanPath (front ++ '/' :: tail) = cleanPath front ++ '/' :: encodeOutside isPathChar tail := by
  have whole := @cleanPath_of_dropDots front tail _ rooted (Text.splitAt_ne_nil tail)
    (dropDots_append plain)
  rwa [Text.joinWith_splitAt] at whole

end Paths

/-! ## Paths of indices -/

section Index

variable (index : String)

/-- The path of an index without the slash at its front. -/
def indexTail : List Char :=
  "1/indexes/".toList ++ Percent.encodeChars index.toList ++ "/query".toList

theorem indexPath_eq : indexPath index = '/' :: indexTail index :=
  rfl

theorem slash_not_mem_encodeChars : '/' ∉ Percent.encodeChars index.toList := by
  intro member
  rcases Percent.mem_encodeChars member with unreserved | percent
  · exact absurd unreserved (by decide)
  · cases percent

theorem append_between_slashes (first second third fourth : List Char) :
    (first ++ '/' :: (second ++ ['/'])) ++ third ++ '/' :: fourth =
      first ++ '/' :: (second ++ '/' :: (third ++ '/' :: fourth)) := by
  simp

theorem splitAt_indexTail : Text.splitAt '/' (indexTail index) =
    [['1'], "indexes".toList, Percent.encodeChars index.toList, "query".toList] := by
  have before : "1/indexes/".toList = ['1'] ++ '/' :: ("indexes".toList ++ ['/']) := by
    decide +kernel
  have behind : "/query".toList = '/' :: "query".toList := by decide +kernel
  have spelled : indexTail index = ['1'] ++ '/' :: ("indexes".toList ++
      '/' :: (Percent.encodeChars index.toList ++ '/' :: "query".toList)) := by
    unfold indexTail
    generalize "1/indexes/".toList = front at before ⊢
    generalize "/query".toList = back at behind ⊢
    subst before behind
    exact append_between_slashes ..
  have one : '/' ∉ ['1'] := by decide
  have indexes : '/' ∉ "indexes".toList := by decide
  have query : '/' ∉ "query".toList := by decide
  rw [spelled, Text.splitAt_append one, Text.splitAt_append indexes,
    Text.splitAt_append (slash_not_mem_encodeChars index), Text.splitAt_of_not_mem query]

/-- The characters of the path of an index. -/
theorem mem_indexTail {c : Char} (member : c ∈ indexTail index) :
    Percent.isUnreserved c = true ∨ c = '%' ∨ c = '/' := by
  have plain {s : String} (all : s.toList.all (fun c => Percent.isUnreserved c || c == '/') = true) :
      ∀ c ∈ s.toList, Percent.isUnreserved c = true ∨ c = '/' := fun c among => by
    simpa using List.all_eq_true.mp all c among
  have words := @plain "1/indexes/" (by decide +kernel)
  have query := @plain "/query" (by decide +kernel)
  rcases List.mem_append.mp member with front | behind
  · rcases List.mem_append.mp front with before | encoded
    · exact (words c before).imp_right .inr
    · exact (Percent.mem_encodeChars encoded).imp_right .inl
  · exact (query c behind).imp_right .inr

theorem isPathChar_of_mem_indexTail {c : Char} (member : c ∈ indexTail index) :
    isPathChar c = true ∧ isQueryChar c = true := by
  rcases mem_indexTail index member with unreserved | rfl | rfl
  · exact isPathChar_of_unreserved unreserved
  · decide
  · decide

/-- A name is a step within a path exactly if it is one dot or two. -/
theorem isStep_encodeChars_iff :
    IsStep (Percent.encodeChars index.toList) ↔ index = "." ∨ index = ".." := by
  have apart (name : String) (encoded : Percent.encodeChars name.toList = name.toList) :
      Percent.encodeChars index.toList = name.toList ↔ index = name := by
    refine ⟨fun same => ?_, fun same => same ▸ encoded⟩
    rw [← encoded] at same
    exact String.toList_inj.mp (Percent.encodeChars_injective same)
  exact or_congr (apart "." (by decide)) (apart ".." (by decide))

end Index

/-! ## Addresses that are put together -/

section Made

variable {a b : Address} {cs : List Char}

theorem eq_cleanPath_of_readPath {hasAuthority : Bool} {path : List Char}
    (reads : readPath true hasAuthority cs = .ok path) : path = cleanPath cs := by
  rw [readPath, Bool.true_or, if_pos rfl] at reads
  split at reads
  · cases reads
  · cases reads
    rfl

/-- What an address with a scheme is made of. -/
structure MadeOf (a : Address) (path : List Char) (query : Option (List Char)) : Prop where
  scheme : a.scheme ≠ []
  path : a.path = cleanPath path
  query : a.query = query.map (encodeOutside isQueryChar)

theorem madeOf_of_ofWritten {w : WrittenAddress} (scheme : w.scheme ≠ [])
    (made : ofWritten w = .ok a) : a.MadeOf w.path w.query := by
  have named : (!w.scheme.isEmpty) = true := by simpa using scheme
  unfold ofWritten at made
  dsimp only at made
  obtain ⟨name, -, made⟩ := exists_of_bind_eq_ok made
  obtain ⟨socket, -, made⟩ := exists_of_bind_eq_ok made
  obtain ⟨path, readsPath, made⟩ := exists_of_bind_eq_ok made
  cases made
  refine ⟨by simpa using scheme, ?_, rfl⟩
  rw [named] at readsPath
  exact eq_cleanPath_of_readPath readsPath

theorem madeOf_of_withPathAndQuery (scheme : a.scheme ≠ [])
    (made : a.withPathAndQuery cs = .ok b) :
    b.MadeOf (WrittenAddress.splitOff '?' cs).1 (WrittenAddress.splitOff '?' cs).2 := by
  obtain ⟨_, -, made⟩ := exists_of_bind_eq_ok made
  exact madeOf_of_ofWritten scheme made

end Made

/-! ## Base addresses -/

/-- An address with a scheme whose path begins with a slash, if there is one, and whose path and
query hold allowed characters. -/
structure IsAnchored (a : Address) : Prop where
  scheme : a.scheme ≠ []
  rooted : IsRooted a.path
  path : ∀ c ∈ a.path, isPathChar c = true
  query : ∀ q ∈ a.query, ∀ c ∈ q, isQueryChar c = true

/-- An address below which others go on. -/
structure IsBase (a : Address) : Prop extends a.IsAnchored where
  slash : ∃ front, a.pathAndQuery = front ++ ['/']

section Base

variable {a b : Address} {path cs tail : List Char} {query : Option (List Char)}

theorem MadeOf.isAnchored (made : a.MadeOf path query) (rooted : IsRooted path) : a.IsAnchored where
  scheme := made.scheme
  rooted := made.path ▸ isRooted_cleanPath rooted
  path c member := isPathChar_of_mem (made.path ▸ member)
  query q given c member := by
    rw [made.query] at given
    obtain ⟨cs, -, rfl⟩ := Option.map_eq_some_iff.mp given
    exact isQueryChar_of_mem member

/-- A path with its slash, if it is empty. -/
def slashed (path : List Char) : List Char :=
  if path.isEmpty then ['/'] else path

theorem pathAndQuery_eq (a : Address) :
    a.pathAndQuery = slashed a.path ++ (a.query.map ('?' :: ·)).getD [] :=
  rfl

theorem isRooted_slashed (rooted : IsRooted path) (tail : List Char) :
    IsRooted (slashed path ++ tail) := by
  cases path with
  | nil => exact fun c first => (Option.some.inj first).symm
  | cons d path => exact fun c first => rooted c first

/-- What stands behind path and query of an anchored address belongs to the query if there is one,
and to the path otherwise. -/
theorem IsAnchored.splitOff_pathAndQuery (anchored : a.IsAnchored) (plain : '?' ∉ tail) :
    WrittenAddress.splitOff '?' (a.pathAndQuery ++ tail) =
      match a.query with
      | none => (slashed a.path ++ tail, none)
      | some q => (slashed a.path, some (q ++ tail)) := by
  have unmarked : '?' ∉ slashed a.path := by
    unfold slashed
    split
    · decide
    · exact fun member => absurd (anchored.path '?' member) (by decide)
  rw [pathAndQuery_eq, WrittenAddress.splitOff]
  cases a.query with
  | none =>
      have absent : '?' ∉ slashed a.path ++ tail := by simp [unmarked, plain]
      simp [Text.cutAt?_eq_none_iff.mpr absent]
  | some q => simp [Text.cutAt?_append unmarked]

/-- An address that goes on behind an anchored one. -/
theorem IsAnchored.of_withPathAndQuery (anchored : a.IsAnchored) (plain : '?' ∉ tail)
    (made : a.withPathAndQuery (a.pathAndQuery ++ tail) = .ok b) :
    b.IsAnchored ∧
      (a.query = none → b.pathAndQuery = slashed (cleanPath (a.pathAndQuery ++ tail))) ∧
      ∀ q, a.query = some q →
        b.pathAndQuery = slashed (cleanPath (slashed a.path)) ++
          '?' :: encodeOutside isQueryChar (q ++ tail) := by
  have parts := madeOf_of_withPathAndQuery anchored.scheme made
  rw [anchored.splitOff_pathAndQuery plain] at parts
  cases hasQuery : a.query with
  | none =>
      rw [hasQuery] at parts
      have spelled : a.pathAndQuery = slashed a.path := by simp [pathAndQuery_eq, hasQuery]
      refine ⟨parts.isAnchored (isRooted_slashed anchored.rooted tail), fun _ => ?_, nofun⟩
      rw [pathAndQuery_eq, parts.path, parts.query, spelled]
      simp
  | some q =>
      rw [hasQuery] at parts
      have rooted := isRooted_slashed anchored.rooted []
      rw [List.append_nil] at rooted
      refine ⟨parts.isAnchored rooted, nofun, ?_⟩
      rintro _ ⟨⟩
      rw [pathAndQuery_eq, parts.path, parts.query]
      simp

/-- An anchored address is a base once a slash stands behind it. -/
theorem IsAnchored.isBase_of_asBase (anchored : a.IsAnchored) (made : a.asBase = .ok b) :
    b.IsBase := by
  unfold asBase at made
  split at made
  · rename_i slash
    cases made
    obtain ⟨front, found⟩ := List.getLast?_eq_some_iff.mp (beq_iff_eq.mp slash)
    exact ⟨anchored, front, found⟩
  · obtain ⟨isAnchored, ofPath, ofQuery⟩ := anchored.of_withPathAndQuery (by decide) made
    refine ⟨isAnchored, ?_⟩
    cases hasQuery : a.query with
    | none =>
        have plain : ∀ p ∈ Text.splitAt '/' [], ¬IsStep p := by simp [Text.splitAt, IsStep]
        have spelled : a.pathAndQuery = slashed a.path := by simp [pathAndQuery_eq, hasQuery]
        have rooted := isRooted_slashed anchored.rooted []
        rw [List.append_nil, ← spelled] at rooted
        rw [ofPath hasQuery, cleanPath_append rooted plain]
        exact ⟨cleanPath a.pathAndQuery, by simp [slashed, encodeOutside]⟩
    | some q =>
        have slash : isQueryChar '/' = true := by decide
        rw [ofQuery q hasQuery, encodeOutside_append, encodeOutside_cons_of_allowed slash]
        exact ⟨slashed (cleanPath (slashed a.path)) ++ '?' :: encodeOutside isQueryChar q,
          by simp [encodeOutside]⟩

/-! ## Addresses of the web -/

theorem splitOff_append {mark : Char} (absent : mark ∉ cs) (rest : List Char) :
    (WrittenAddress.splitOff mark (cs ++ rest)).1 =
      cs ++ (WrittenAddress.splitOff mark rest).1 := by
  rw [WrittenAddress.splitOff, WrittenAddress.splitOff, Text.cutAt?_append_of_not_mem absent]
  cases Text.cutAt? mark rest <;> rfl

theorem isRooted_dropWhile (cs : List Char) : IsRooted (cs.dropWhile (· != '/')) := by
  intro c first
  have stops := List.head?_dropWhile_not (· != '/') cs
  rw [Option.mem_def.mp first] at stops
  simpa using stops

theorem ofChars_of_splitOff {before : List Char}
    (found : (WrittenAddress.splitOff '?' (WrittenAddress.splitOff '#' cs).1).1 = before) :
    (WrittenAddress.ofChars cs).scheme = (WrittenAddress.splitScheme before).1 ∧
      (WrittenAddress.ofChars cs).path =
        (WrittenAddress.splitAuthority (WrittenAddress.splitScheme before).2).2 :=
  found ▸ ⟨rfl, rfl⟩

/-- The parts of an address that starts with a scheme and two slashes. -/
theorem ofChars_of_scheme {scheme rest : List Char}
    (isScheme : WrittenAddress.isScheme scheme = true) (apart : '#' ∉ scheme ∧ '?' ∉ scheme ∧ ':' ∉ scheme) :
    (WrittenAddress.ofChars (scheme ++ "://".toList ++ rest)).scheme = scheme ∧
      IsRooted (WrittenAddress.ofChars (scheme ++ "://".toList ++ rest)).path := by
  have slashes : "://".toList = ':' :: '/' :: '/' :: [] := by decide
  have noFragment : '#' ∉ scheme ++ "://".toList := by
    rw [List.mem_append, not_or]
    exact ⟨apart.1, by decide⟩
  have noQuery : '?' ∉ scheme ++ "://".toList := by
    rw [List.mem_append, not_or]
    exact ⟨apart.2.1, by decide⟩
  let behind := (WrittenAddress.splitOff '?' (WrittenAddress.splitOff '#' rest).1).1
  have parts : WrittenAddress.splitScheme (scheme ++ "://".toList ++ behind) =
      (scheme, '/' :: '/' :: behind) := by
    rw [slashes, List.append_assoc]
    simp [WrittenAddress.splitScheme, Text.cutAt?_append apart.2.2, isScheme]
  have before : (WrittenAddress.splitOff '?' (WrittenAddress.splitOff '#'
      (scheme ++ "://".toList ++ rest)).1).1 = scheme ++ "://".toList ++ behind := by
    rw [splitOff_append noFragment, splitOff_append noQuery]
  obtain ⟨sameScheme, samePath⟩ := ofChars_of_splitOff before
  rw [sameScheme, samePath, parts]
  exact ⟨rfl, isRooted_dropWhile behind⟩

/-- What starts with a scheme and two slashes is a base, once a slash stands behind it. -/
theorem isBase_of_read {scheme rest : List Char} (named : scheme ≠ [])
    (isScheme : WrittenAddress.isScheme scheme = true)
    (apart : '#' ∉ scheme ∧ '?' ∉ scheme ∧ ':' ∉ scheme)
    (reads : (read (scheme ++ "://".toList ++ rest)).bind asBase = .ok a) : a.IsBase := by
  obtain ⟨address, reads, isBase⟩ := exists_of_bind_eq_ok reads
  obtain ⟨w, written, made⟩ := exists_of_bind_eq_ok reads
  obtain ⟨_, -, written⟩ := exists_of_bind_eq_ok written
  cases written
  obtain ⟨sameScheme, rooted⟩ := @ofChars_of_scheme scheme rest isScheme apart
  have madeOf := madeOf_of_ofWritten (by rwa [sameScheme]) made
  exact (madeOf.isAnchored rooted).isBase_of_asBase isBase

/-- Whether a text starts with a protocol of the web. -/
def IsWeb (cs : List Char) : Prop :=
  "http://".toList <+: cs ∨ "https://".toList <+: cs

theorem isBase_of_isWeb (web : IsWeb cs) (reads : (read cs).bind asBase = .ok a) : a.IsBase := by
  have http : "http://".toList = "http".toList ++ "://".toList := by decide
  have https : "https://".toList = "https".toList ++ "://".toList := by decide
  rcases web with ⟨rest, rfl⟩ | ⟨rest, rfl⟩
  · rw [http] at reads
    exact isBase_of_read (by decide) (by decide) (by decide) reads
  · rw [https] at reads
    exact isBase_of_read (by decide) (by decide) (by decide) reads

end Base

/-! ## Addresses of indices -/

/-- Whether an address leads to an index: its path, or the query of its base, ends with the path of
the index. -/
def LeadsTo (a : Address) (index : String) : Prop :=
  indexPath index <:+ a.pathAndQuery

section Below

variable {a b place : Address} {index : String}

theorem not_mem_indexPath {c : Char} (reserved : Percent.isUnreserved c = false) (percent : c ≠ '%')
    (slash : c ≠ '/') : c ∉ indexPath index := by
  rw [indexPath_eq, List.mem_cons, not_or]
  refine ⟨slash, fun member => ?_⟩
  rcases mem_indexTail index member with unreserved | same | same
  · rw [reserved] at unreserved
    cases unreserved
  · exact percent same
  · exact slash same

theorem ofChars_indexPath : WrittenAddress.ofChars (indexPath index) =
    { path := indexPath index } := by
  have noFragment := Text.cutAt?_eq_none_iff.mpr
    (@not_mem_indexPath index '#' (by decide) (by decide) (by decide))
  have noQuery := Text.cutAt?_eq_none_iff.mpr
    (@not_mem_indexPath index '?' (by decide) (by decide) (by decide))
  have noScheme := Text.cutAt?_eq_none_iff.mpr
    (@not_mem_indexPath index ':' (by decide) (by decide) (by decide))
  simp only [WrittenAddress.ofChars, WrittenAddress.splitOff, noFragment, noQuery,
    WrittenAddress.splitScheme, noScheme]
  rfl

/-- The path of an index is read as it is. -/
theorem pathAndQuery_of_read (reads : read (indexPath index) = .ok place) :
    place.pathAndQuery = indexPath index := by
  obtain ⟨w, written, made⟩ := exists_of_bind_eq_ok reads
  obtain ⟨_, -, written⟩ := exists_of_bind_eq_ok written
  rw [ofChars_indexPath] at written
  cases written
  obtain ⟨host, readsHost, made⟩ := exists_of_bind_eq_ok made
  obtain ⟨socket, readsSocket, made⟩ := exists_of_bind_eq_ok made
  cases readsHost
  cases readsSocket
  obtain ⟨path, readsPath, made⟩ := exists_of_bind_eq_ok made
  cases made
  cases readsPath
  have same : encodeOutside isPathChar (indexPath index) = indexPath index :=
    encodeOutside_of_allowed (List.forall_mem_cons.mpr ⟨by decide, fun c member =>
      (isPathChar_of_mem_indexTail index member).1⟩)
  show slashed (encodeOutside isPathChar (indexPath index)) ++ [] = indexPath index
  rw [same, List.append_nil]
  rfl

/-- A path of an index that lost its name is shorter and ends otherwise. -/
theorem not_leadsTo_of_lost {front : List Char} {kept : List (List Char)} (rooted : IsRooted front)
    (some_kept : kept ≠ [])
    (lost : dropDots (Text.splitAt '/' front ++ Text.splitAt '/' (indexTail index)) =
      dropDots (Text.splitAt '/' front) ++ kept)
    (path : b.pathAndQuery = slashed (cleanPath (front ++ '/' :: indexTail index)))
    (fits : ('/' :: encodeOutside isPathChar (Text.joinWith ['/'] kept)).length ≤
      (indexPath index).length)
    (other : ¬('/' :: encodeOutside isPathChar (Text.joinWith ['/'] kept) <:+ indexPath index)) :
    ¬b.LeadsTo index := by
  have slashed_append (before after : List Char) :
      slashed (before ++ '/' :: after) = before ++ '/' :: after := by simp [slashed]
  rw [cleanPath_of_dropDots rooted some_kept lost, slashed_append] at path
  have ends : '/' :: encodeOutside isPathChar (Text.joinWith ['/'] kept) <:+ b.pathAndQuery :=
    path ▸ List.suffix_append _ _
  exact fun leads => other (List.suffix_of_suffix_length_le ends leads fits)

/-- A name of one or two dots is lost from a path. -/
theorem not_leadsTo_of_step (isStep : index = "." ∨ index = "..") {front : List Char}
    (rooted : IsRooted front)
    (path : b.pathAndQuery = slashed (cleanPath (front ++ '/' :: indexTail index))) :
    ¬b.LeadsTo index := by
  have one : ¬IsStep ['1'] := by simp [IsStep]
  have indexes : ¬IsStep "indexes".toList := by simp [IsStep]
  have query : ¬IsStep "query".toList := by simp [IsStep]
  rcases isStep with rfl | rfl
  · -- The dot is passed over.
    have dot : Percent.encodeChars ".".toList = ['.'] := by decide
    have lost : dropDots (Text.splitAt '/' front ++ Text.splitAt '/' (indexTail ".")) =
        dropDots (Text.splitAt '/' front) ++ [['1'], "indexes".toList, "query".toList] := by
      have passed := @dropDots_dot (Text.splitAt '/' front ++ [['1'], "indexes".toList])
        ["query".toList]
      rw [List.append_assoc, List.append_assoc] at passed
      rw [splitAt_indexTail, dot, ← dropDots_append (List.forall_mem_cons.mpr ⟨one,
        List.forall_mem_cons.mpr ⟨indexes, List.forall_mem_singleton.mpr query⟩⟩)]
      exact passed
    exact not_leadsTo_of_lost rooted (by simp) lost path (by decide +kernel) (by decide +kernel)
  · -- The two dots take away what stands before the name.
    have dots : Percent.encodeChars "..".toList = ['.', '.'] := by decide
    have lost : dropDots (Text.splitAt '/' front ++ Text.splitAt '/' (indexTail "..")) =
        dropDots (Text.splitAt '/' front) ++ [['1'], "query".toList] := by
      have taken := @dropDots_twoDots (Text.splitAt '/' front ++ [['1']]) ["query".toList]
        "indexes".toList indexes (by decide)
      rw [List.append_assoc, List.append_assoc] at taken
      rw [splitAt_indexTail, dots, ← dropDots_append (List.forall_mem_cons.mpr ⟨one,
        List.forall_mem_singleton.mpr query⟩)]
      exact taken
    exact not_leadsTo_of_lost rooted (by simp) lost path (by decide +kernel) (by decide +kernel)

theorem encodeOutside_indexTail :
    encodeOutside isPathChar (indexTail index) = indexTail index ∧
      encodeOutside isQueryChar (indexTail index) = indexTail index :=
  ⟨encodeOutside_of_allowed fun _ member => (isPathChar_of_mem_indexTail index member).1,
    encodeOutside_of_allowed fun _ member => (isPathChar_of_mem_indexTail index member).2⟩

/-- Any other name stays in a path. -/
theorem leadsTo_of_not_step (plain : ¬(index = "." ∨ index = "..")) {front : List Char}
    (rooted : IsRooted front)
    (path : b.pathAndQuery = slashed (cleanPath (front ++ '/' :: indexTail index))) :
    b.LeadsTo index := by
  have noSteps : ∀ p ∈ Text.splitAt '/' (indexTail index), ¬IsStep p := by
    rw [splitAt_indexTail]
    simp only [List.forall_mem_cons]
    exact ⟨by simp [IsStep], by simp [IsStep], (isStep_encodeChars_iff index).not.mpr plain,
      by simp [IsStep], nofun⟩
  rw [cleanPath_append rooted noSteps, encodeOutside_indexTail.1, ← indexPath_eq] at path
  rw [LeadsTo, path, slashed]
  split
  · rename_i empty
    simp [indexPath_eq] at empty
  · exact List.suffix_append _ _

/-- Every name stays in a query that ends with a slash. -/
theorem leadsTo_of_query {path query : List Char}
    (spelled : b.pathAndQuery =
      path ++ '?' :: encodeOutside isQueryChar (query ++ ['/'] ++ indexTail index)) :
    b.LeadsTo index := by
  have slash : isQueryChar '/' = true := by decide
  rw [LeadsTo, spelled, List.append_assoc, List.singleton_append, encodeOutside_append,
    encodeOutside_cons_of_allowed slash, encodeOutside_indexTail.2, ← indexPath_eq,
    ← List.cons_append, ← List.append_assoc]
  exact List.suffix_append _ _

/-- The slash at the end of a base stands at the end of its query, if there is one. -/
theorem IsBase.exists_query_eq (isBase : a.IsBase) {q : List Char} (hasQuery : a.query = some q) :
    ∃ q', q = q' ++ ['/'] := by
  obtain ⟨front, ends⟩ := isBase.slash
  have last : (slashed a.path ++ '?' :: q).getLast? = some '/' := by
    rw [pathAndQuery_eq, hasQuery] at ends
    exact (congrArg List.getLast? ends).trans (by simp)
  cases q with
  | nil => simp at last
  | cons c q =>
      rw [List.getLast?_append_of_ne_nil _ (by simp), List.getLast?_cons_cons] at last
      exact List.getLast?_eq_some_iff.mp last

/-- Otherwise it stands at the end of its path. -/
theorem IsBase.exists_path_eq (isBase : a.IsBase) (noQuery : a.query = none) :
    ∃ front, a.pathAndQuery = front ++ ['/'] ∧ IsRooted front := by
  obtain ⟨front, ends⟩ := isBase.slash
  refine ⟨front, ends, ?_⟩
  have whole := isRooted_slashed isBase.rooted []
  rw [pathAndQuery_eq, noQuery] at ends
  rw [show slashed a.path ++ [] = front ++ ['/'] from ends] at whole
  cases front with
  | nil => nofun
  | cons c front => exact fun d first => whole d first

/-- An address below a base leads to its index, but for a name of one or two dots behind a base
without a query. -/
theorem IsBase.leadsTo_iff (isBase : a.IsBase) (made : a.below index = .ok b) :
    b.LeadsTo index ↔ (a.query = none → index ≠ "." ∧ index ≠ "..") := by
  obtain ⟨place, reads, made⟩ := exists_of_bind_eq_ok made
  have tail : place.pathAndQuery.drop 1 = indexTail index := by
    rw [pathAndQuery_of_read reads, indexPath_eq, List.drop_one, List.tail_cons]
  have unmarked : '?' ∉ indexTail index := fun member =>
    not_mem_indexPath (by decide) (by decide) (by decide)
      (indexPath_eq index ▸ List.mem_cons_of_mem '/' member)
  rw [tail] at made
  obtain ⟨-, ofPath, ofQuery⟩ := isBase.toIsAnchored.of_withPathAndQuery unmarked made
  cases hasQuery : a.query with
  | some q =>
      obtain ⟨q, rfl⟩ := isBase.exists_query_eq hasQuery
      exact iff_of_true (leadsTo_of_query (ofQuery _ hasQuery)) nofun
  | none =>
      obtain ⟨front, ends, rooted⟩ := isBase.exists_path_eq hasQuery
      have path := ofPath hasQuery
      rw [ends, List.append_assoc, List.singleton_append] at path
      simp only [forall_const]
      by_cases isStep : index = "." ∨ index = ".."
      · exact iff_of_false (not_leadsTo_of_step isStep rooted path) (by tauto)
      · exact iff_of_true (leadsTo_of_not_step isStep rooted path) (not_or.mp isStep)

end Below

/-! ## Addresses that there are -/

section Reads

open WrittenAddress (check checkText maxLength)

variable {a b : Address} {cs : List Char} {w w' : WrittenAddress}

theorem reads_checkText_iff (part : Option AddressPart)
    (printable : ∀ c ∈ cs, WrittenAddress.isControl c = false) :
    Reads (checkText part cs) ↔ cs.length ≤ maxLength := by
  have none_there : cs.find? WrittenAddress.isControl = none :=
    List.find?_eq_none.mpr fun c member => by simp [printable c member]
  unfold checkText
  split
  · rename_i long
    exact iff_of_false (not_reads_error _) (Nat.not_le.mpr long)
  · rename_i short
    rw [none_there]
    exact iff_of_true (reads_ok ()) (Nat.not_lt.mp short)

theorem isControl_of_isPathChar {c : Char} (isAllowed : isPathChar c = true) :
    WrittenAddress.isControl c = false :=
  isControl_of_printableBut isAllowed

theorem isControl_of_isQueryChar {c : Char} (isAllowed : isQueryChar c = true) :
    WrittenAddress.isControl c = false :=
  isControl_of_printableBut isAllowed

/-- Whether host and socket number of written parts can be read. -/
def HostReads (w : WrittenAddress) : Prop :=
  Reads (readHost (splitHost (splitUser w.authority).2).1) ∧
    Reads (readSocket w.scheme (dropColon (splitHost (splitUser w.authority).2).2))

theorem reads_readPath (hasAuthority : Bool) (rooted : IsRooted cs) :
    Reads (readPath true hasAuthority cs) := by
  have front : (hasAuthority && !cs.isEmpty && cs.head? != some '/') = false := by
    cases cs with
    | nil => simp
    | cons c cs => simp [rooted c rfl]
  rw [readPath, front, Bool.true_or]
  exact reads_ok _

theorem reads_ofWritten_iff (scheme : w.scheme ≠ []) (rooted : IsRooted w.path) :
    Reads (ofWritten w) ↔ HostReads w := by
  have named : (!w.scheme.isEmpty) = true := by simpa using scheme
  refine reads_bind_iff fun host => reads_bind_of_reads fun socket => ?_
  rw [named]
  exact (reads_bind_of_reads fun path => reads_pure _).mpr (reads_readPath _ rooted)

theorem reads_rebuild_iff (scheme : w.scheme ≠ []) (rooted : IsRooted w.path) :
    Reads (rebuild w) ↔ (Reads (checkText (some .scheme) w.scheme) ∧
      Reads (checkText (some .authority) w.authority) ∧ Reads (checkText (some .path) w.path) ∧
      Reads (checkText (some .query) (w.query.getD [])) ∧
      Reads (checkText (some .fragment) (w.fragment.getD []))) ∧ HostReads w := by
  refine (reads_bind_iff fun _ => reads_ofWritten_iff scheme rooted).trans (and_congr_left' ?_)
  exact reads_bind_iff fun _ => reads_bind_iff fun _ => reads_bind_iff fun _ =>
    reads_bind_iff fun _ => Iff.rfl

/-- Whether an address can have another path at all. -/
def GoesOn (a : Address) : Prop :=
  Reads (a.withPathAndQuery ['/'])

/-- Whether something behind path and query of an address leaves them short enough. -/
def HasRoom (a : Address) (tail : List Char) : Prop :=
  match a.query with
  | none => (slashed a.path ++ tail).length ≤ maxLength
  | some q => (slashed a.path).length ≤ maxLength ∧ (q ++ tail).length ≤ maxLength

/-- Only the lengths of path and query decide whether an address that can have another path can have
these. -/
theorem reads_rebuild_written_iff (scheme : a.scheme ≠ []) {path query : List Char}
    {mark : Option (List Char)} (marked : mark.getD [] = query) (rooted : IsRooted path)
    (printable : ∀ c ∈ path, isPathChar c = true) (printable' : ∀ c ∈ query, isQueryChar c = true) :
    Reads (rebuild { a.written with path := path, query := mark }) ↔
      a.GoesOn ∧ path.length ≤ maxLength ∧ query.length ≤ maxLength := by
  have root : a.GoesOn ↔ _ :=
    reads_rebuild_iff (w := { a.written with path := ['/'], query := none }) scheme
    (fun c first => (Option.some.inj first).symm)
  rw [reads_rebuild_iff scheme rooted, root, marked,
    reads_checkText_iff _ fun c member => isControl_of_isPathChar (printable c member),
    reads_checkText_iff _ fun c member => isControl_of_isQueryChar (printable' c member)]
  have slash : Reads (checkText (some .path) ['/']) := ⟨(), by decide⟩
  have empty : Reads (checkText (some .query) ((none : Option (List Char)).getD [])) :=
    ⟨(), by decide⟩
  simp only [slash, empty, true_and]
  show _ ∧ HostReads a.written ↔ (_ ∧ HostReads a.written) ∧ _
  tauto

/-- An address can go on behind its path and query if it can have another path at all and has room
for what follows. -/
theorem IsAnchored.reads_withPathAndQuery_iff (anchored : a.IsAnchored) {tail : List Char}
    (allowed : ∀ c ∈ tail, isPathChar c = true ∧ isQueryChar c = true) :
    Reads (a.withPathAndQuery (a.pathAndQuery ++ tail)) ↔ a.GoesOn ∧ a.HasRoom tail := by
  have unmarked : '?' ∉ tail := fun member => absurd (allowed '?' member).1 (by decide)
  have printable : ∀ c ∈ slashed a.path, isPathChar c = true := by
    unfold slashed
    split
    · exact List.forall_mem_singleton.mpr (by decide)
    · exact anchored.path
  have parts := anchored.splitOff_pathAndQuery unmarked
  rw [withPathAndQuery, parts, HasRoom]
  cases hasQuery : a.query with
  | none =>
      refine (reads_rebuild_written_iff anchored.scheme rfl
        (isRooted_slashed anchored.rooted tail) (List.forall_mem_append.mpr
          ⟨printable, fun c member => (allowed c member).1⟩) (List.forall_mem_nil _)).trans ?_
      simp
  | some q =>
      have rooted := isRooted_slashed anchored.rooted []
      rw [List.append_nil] at rooted
      exact reads_rebuild_written_iff anchored.scheme rfl rooted printable
        (List.forall_mem_append.mpr
          ⟨anchored.query q hasQuery, fun c member => (allowed c member).2⟩)

theorem reads_read_indexPath_iff (index : String) :
    Reads (read (indexPath index)) ↔ (indexPath index).length ≤ maxLength := by
  have printable : ∀ c ∈ indexPath index, WrittenAddress.isControl c = false :=
    List.forall_mem_cons.mpr ⟨by decide, fun c member =>
      isControl_of_isPathChar (isPathChar_of_mem_indexTail index member).1⟩
  have parts : Reads (ofWritten (WrittenAddress.ofChars (indexPath index))) := by
    rw [ofChars_indexPath]
    exact ⟨_, rfl⟩
  have written : Reads (WrittenAddress.read (indexPath index)) ↔
      (indexPath index).length ≤ maxLength :=
    (reads_bind_of_reads fun _ => reads_pure _).trans (reads_checkText_iff none printable)
  rw [← written, read]
  cases found : WrittenAddress.read (indexPath index) with
  | error fault => exact iff_of_false (not_reads_error _) (not_reads_error _)
  | ok w =>
      obtain ⟨_, -, same⟩ := exists_of_bind_eq_ok found
      obtain rfl := Except.ok.inj same
      exact iff_of_true (reads_ok_bind_iff.mpr parts) (reads_ok _)

/-- There is an address of an index below a base exactly if the base can go on, and the path of the
index is short enough, alone and behind the base. -/
theorem IsBase.reads_below_iff (isBase : a.IsBase) (index : String) :
    Reads (a.below index) ↔
      a.GoesOn ∧ (indexPath index).length ≤ maxLength ∧ a.HasRoom (indexTail index) := by
  have behind {place : Address} (reads : read (indexPath index) = .ok place) :
      Reads (a.withPathAndQuery (a.pathAndQuery ++ place.pathAndQuery.drop 1)) ↔
        a.GoesOn ∧ a.HasRoom (indexTail index) := by
    rw [pathAndQuery_of_read reads, indexPath_eq, List.drop_one, List.tail_cons]
    exact isBase.toIsAnchored.reads_withPathAndQuery_iff fun c =>
      isPathChar_of_mem_indexTail index
  rw [← reads_read_indexPath_iff, below]
  cases reads : read (indexPath index) with
  | error fault => exact iff_of_false (not_reads_error _) fun all => not_reads_error _ all.2.1
  | ok place => exact (behind reads).trans (by simp)

/-- The host with its socket number is the same for all addresses below a base. -/
theorem hostChars_eq {cs ds : List Char} {b c : Address} (made : a.withPathAndQuery cs = .ok b)
    (made' : a.withPathAndQuery ds = .ok c) : b.hostChars = c.hostChars := by
  obtain ⟨_, -, made⟩ := exists_of_bind_eq_ok made
  obtain ⟨_, -, made'⟩ := exists_of_bind_eq_ok made'
  obtain ⟨host, readsHost, made⟩ := exists_of_bind_eq_ok made
  obtain ⟨socket, readsSocket, made⟩ := exists_of_bind_eq_ok made
  obtain ⟨_, -, made⟩ := exists_of_bind_eq_ok made
  obtain ⟨host', readsHost', made'⟩ := exists_of_bind_eq_ok made'
  obtain ⟨socket', readsSocket', made'⟩ := exists_of_bind_eq_ok made'
  obtain ⟨_, -, made'⟩ := exists_of_bind_eq_ok made'
  cases made
  cases made'
  obtain rfl := Except.ok.inj (readsHost.symm.trans readsHost')
  obtain rfl := Except.ok.inj (readsSocket.symm.trans readsSocket')
  rfl

end Reads

end Address

end Bazaar
