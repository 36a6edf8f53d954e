import Bazaar.Proofs.Hit.Attributes
import Bazaar.Proofs.Hit.Kind
import Bazaar.Proofs.Json.Plain
import Bazaar.Proofs.Text.Phrase
import Bazaar.Render.Writer

/-!
# Output documents

The documents of hits and results repeat no name and have no undefined double, if the hits were read
from documents without undefined doubles.
-/

namespace Bazaar

namespace Json

/-! ## Simple documents -/

@[simp]
theorem isPlain_null : IsPlain .null :=
  .of_isLeaf trivial (by simp)

@[simp]
theorem isPlain_bool (b : Bool) : IsPlain (.bool b) :=
  .of_isLeaf trivial (by simp)

@[simp]
theorem isPlain_int (n : Int) : IsPlain (.int n) :=
  .of_isLeaf trivial (by simp)

@[simp]
theorem isPlain_str (s : Phrase) : IsPlain (.str s) :=
  .of_isLeaf trivial (by simp)

theorem isPlain_float {x : Float} (defined : Decimal.read x ≠ .nan) : IsPlain (.float x) :=
  .of_isLeaf trivial (by simpa using defined)

@[simp]
theorem isPlain_ofString (s : String) : IsPlain (.ofString s) :=
  isPlain_str s

@[simp]
theorem isPlain_strings (items : List String) : IsPlain (.arr (items.map .ofString)) :=
  isPlain_arr (by simp)

@[simp]
theorem isPlain_strs (items : List Phrase) : IsPlain (.arr (items.map .str)) :=
  isPlain_arr (by simp)

end Json

namespace Render

open Json (IsPlain)

theorem isPlain_optional {f : α → Json} (each : ∀ a, IsPlain (f a)) (o : Option α) :
    IsPlain (optional f o) := by
  cases o with
  | none => exact Json.isPlain_null
  | some a => exact each a

@[simp]
theorem isPlain_optional_str (s : Option Phrase) : IsPlain (optional .str s) :=
  isPlain_optional Json.isPlain_str s

@[simp]
theorem isPlain_optional_int (n : Option Int) : IsPlain (optional .int n) :=
  isPlain_optional Json.isPlain_int n

@[simp]
theorem isPlain_time (t : Option Calendar.DateTime) : IsPlain (time t) :=
  isPlain_optional (fun _ => Json.isPlain_ofString _) t

end Render

/-! ## Records -/

/-- The JSON form of the value of a field. -/
def FieldValue.document : FieldValue → Json
  | .text s => .str s
  | .text? s => Render.optional .str s
  | .texts items => .arr (items.map .str)
  | .float x => .float x
  | .float? x => Render.optional .float x
  | .int n => .int n
  | .int? n => Render.optional .int n
  | .flag b => .bool b
  | .time? t => Render.time t

theorem Decimal.ne_nan_of_isFinite {x : Float} (finite : Decimal.isFinite x = true) :
    Decimal.read x ≠ .nan := by
  intro undefined
  rw [Decimal.isFinite, undefined] at finite
  cases finite

/-- A double that is read off an attribute is finite. -/
theorem Members.isFinite_of_float? {raw : Members} {name : Phrase} {x : Float}
    (read : raw.float? name = .ok (some x)) : Decimal.isFinite x = true := by
  unfold Members.float? at read
  split at read
  · unfold Members.floatOf? at read
    split at read
    · obtain ⟨y, found, same⟩ := exists_of_map_eq_ok (eq_ok_of_mapError_eq_ok read)
      cases same
      unfold Number.floatOfInt at found
      dsimp only at found
      split at found
      · rename_i finite
        cases found
        exact finite
      · cases found
    · split at read
      · rename_i finite
        cases read
        exact finite
      · cases read
    · cases read
  · cases read

variable [Platform]

theorem FieldType.isPlain_document {type : FieldType} {objectId name : Phrase} {raw : Members}
    {value : FieldValue} (read : type.read objectId raw name = .ok value) :
    value.document.IsPlain := by
  cases type with
  | price =>
      obtain ⟨x, found, rfl⟩ := exists_of_map_eq_ok read
      apply Json.isPlain_float
      obtain ⟨read?, found', same⟩ := exists_of_bind_eq_ok found
      cases read? with
      | none =>
          cases same
          decide
      | some y =>
          cases same
          split
          · decide
          · exact Decimal.ne_nan_of_isFinite (Members.isFinite_of_float? found')
  | float? =>
      obtain ⟨x, found, rfl⟩ := exists_of_map_eq_ok read
      cases x with
      | none => exact Json.isPlain_null
      | some x =>
          exact Json.isPlain_float (Decimal.ne_nan_of_isFinite (Members.isFinite_of_float? found))
  | flag =>
      cases read
      simp [FieldValue.document]
  | _ =>
      obtain ⟨x, -, rfl⟩ := exists_of_map_eq_ok read
      simp [FieldValue.document]

namespace Render

omit [Platform] in
theorem record_values (r : Record) :
    (record r).map Prod.snd = r.fields.map fun field => field.2.document := by
  cases r <;> rfl

/-- The values in the document of a record are plain. -/
theorem isPlain_record {kind : HitKind} {objectId : Phrase} {raw : Members} {r : Record}
    (read : Record.ofMembers kind objectId raw = .ok r) : ∀ m ∈ record r, m.2.IsPlain := by
  intro m member
  have value : m.2 ∈ (record r).map Prod.snd := List.mem_map_of_mem member
  rw [record_values] at value
  obtain ⟨field, listed, same⟩ := List.mem_map.mp value
  obtain ⟨type, found⟩ := (Record.isReadBy read).exists_type listed
  rw [← same]
  exact FieldType.isPlain_document found

omit [Platform] in
theorem nodup_hit (h : Hit) : ((front h ++ record h.record ++ behind h).map Prod.fst).Nodup := by
  obtain ⟨objectId, r, extra⟩ := h
  cases r <;> simp [front, behind, record, shop, product, listing, orderItem]

end Render

/-! ## Hits -/

/-- A hit that was read from an object of a document without undefined doubles. -/
def Hit.IsParsed (h : Hit) : Prop :=
  ∃ room text document kind raw, Json.readWithin room text = .ok document ∧ document.IsDefined ∧
    Json.Within (.obj raw) document ∧ Hit.ofJson kind (.obj raw) = .inr (.ok h)

/-- The hits of a response that was read from a document without undefined doubles. -/
theorem Response.isParsed_of_ofMembers {room : Nat} {text : Phrase} {payload : Members}
    {kind : HitKind} {hitsPerPage : Int} {answer : Response}
    (read : Json.readWithin room text = .ok (.obj payload))
    (defined : (Json.obj payload).IsDefined)
    (answered : (ofMembers payload kind hitsPerPage).2 = .ok answer) :
    ∀ hit ∈ answer.hits, hit.IsParsed := by
  intro hit member
  obtain ⟨items, found, v, listed, hitRead⟩ := exists_item_of_ofMembers answered hit member
  obtain ⟨raw, rfl⟩ := Hit.exists_obj_of_ofJson hitRead
  exact ⟨room, text, _, kind, raw, read, defined,
    .member (Entries.mem_of_get? found) (.item listed .self), hitRead⟩

namespace Render

open Json (IsPlain isPlain_obj isPlain_arr)

/-- The document of a hit that was read is plain. -/
theorem isPlain_hit {h : Hit} (parsed : h.IsParsed) : (hit h).IsPlain := by
  obtain ⟨room, text, document, kind, raw, read, defined, inside, hitRead⟩ := parsed
  have plain : (Json.obj raw).IsPlain :=
    IsPlain.of_within ⟨Json.hasDistinctNames_of_readWithin read, defined⟩ inside
  obtain ⟨-, -, recordRead, extra⟩ := Hit.ofJson_eq_ok_iff.mp hitRead
  have kept : h.extra.Sublist raw := extra ▸ List.filter_sublist
  have extraPlain : (Json.obj h.extra).IsPlain :=
    isPlain_obj ((plain.distinct raw .self).sublist (kept.map Prod.fst)) fun m member =>
      plain.of_within (.member (kept.subset member) .self)
  apply isPlain_obj (nodup_hit h)
  intro m member
  simp only [front, behind, List.mem_append, List.mem_cons, List.not_mem_nil, or_false] at member
  rcases member with (rfl | field) | rfl | rfl
  · exact Json.isPlain_str _
  · exact isPlain_record recordRead m field
  · exact extraPlain
  · exact Json.isPlain_str _

/-! ## Results -/

theorem isPlain_hits {hs : List Hit} (parsed : ∀ h ∈ hs, h.IsParsed) : (hits hs).IsPlain := by
  apply isPlain_arr
  intro v member
  obtain ⟨h, listed, rfl⟩ := List.mem_map.mp member
  exact isPlain_hit (parsed h listed)

omit [Platform] in
theorem isPlain_failure (f : Failure) : (failure f).IsPlain :=
  isPlain_obj (by simp) (by simp)

theorem isPlain_result {r : SearchResult} (parsed : ∀ h ∈ r.hits, h.IsParsed) :
    (result r).IsPlain := by
  apply isPlain_obj
  · simp
  · simp [isPlain_optional isPlain_failure, isPlain_hits parsed]

theorem isPlain_aggregate {a : Aggregate} (distinct : (a.map Prod.fst).Nodup)
    (parsed : ∀ entry ∈ a, ∀ h ∈ entry.2.hits, h.IsParsed) : (aggregate a).IsPlain := by
  apply isPlain_obj
  · simp
  · simp only [List.forall_mem_cons]
    refine ⟨Json.isPlain_int _, Json.isPlain_strings _, isPlain_obj ?_ ?_, List.forall_mem_nil _⟩
    · rw [List.map_map]
      have names : (Prod.fst ∘ fun entry : String × SearchResult =>
          (Phrase.ofString entry.1, result entry.2)) = Phrase.ofString ∘ Prod.fst := rfl
      rw [names, ← List.map_map]
      exact distinct.map fun _ _ => Phrase.ofString_inj.mp
    · intro m member
      obtain ⟨entry, listed, rfl⟩ := List.mem_map.mp member
      exact isPlain_result (parsed entry listed)

theorem isPlain_lookup {index : String} {hs : List Hit} (parsed : ∀ h ∈ hs, h.IsParsed) :
    (lookup index hs).IsPlain :=
  isPlain_obj (by simp) (by simp [isPlain_hits parsed])

/-- The hits in something to write. -/
def Output.hits : Output → List Hit
  | .result r => r.hits
  | .aggregate a => a.flatMap fun (_, r) => r.hits
  | .lookup _ hs => hs
  | .counts _ => []
  | .health _ => []

/-- Something to write whose hits were read from documents.  An aggregate has one result for each
index. -/
structure Output.IsParsed (o : Output) : Prop where
  hits : ∀ h ∈ o.hits, h.IsParsed
  indices : ∀ a, o = .aggregate a → (a.map Prod.fst).Nodup

/-- The document of something that was read is plain. -/
theorem isPlain_document {o : Output} (parsed : o.IsParsed) : o.document.IsPlain := by
  cases o with
  | result r => exact isPlain_result parsed.hits
  | aggregate a =>
      exact isPlain_aggregate (parsed.indices a rfl) fun entry listed h member =>
        parsed.hits h (List.mem_flatMap.mpr ⟨entry, listed, member⟩)
  | lookup index hs => exact isPlain_lookup parsed.hits
  | counts c => exact isPlain_obj (by simp) (by simp)
  | health healthy => exact isPlain_obj (by simp) (by simp)

omit [Platform] in
/-- Everything is written as an object. -/
theorem exists_document_eq_obj (o : Output) : ∃ members, o.document = .obj members := by
  cases o <;> exact ⟨_, rfl⟩

end Render

end Bazaar
