import Bazaar.Platform.Usual
import Bazaar.Proofs.Decimal.Whole
import Bazaar.Proofs.Entries
import Bazaar.Proofs.Hit.Kind
import Bazaar.Proofs.Hit.Range
import Bazaar.Proofs.Hit.Schema

/-!
# Attributes and what they feed

Each attribute of an object feeds its own field of the record and nothing else, and every attribute
that feeds no field stays as it came.  The attributes that do not stay are therefore those that the
record is read from; only a shop's location both feeds a field and stays.
-/

namespace Bazaar

/-! ## An attribute set to another value -/

section Entries

variable {ν : Type} [DecidableEq ν] (entries : Entries α ν) (name : ν) (v w : α)

theorem Entries.insert_insert : (entries.insert name v).insert name w = entries.insert name w := by
  induction entries with
  | nil => simp [Entries.insert_nil, Entries.insert_cons]
  | cons entry rest ih =>
      rw [Entries.insert_cons, Entries.insert_cons]
      split
      · simp [Entries.insert_cons]
      · rename_i differs
        simp [Entries.insert_cons, differs, ih]

theorem Entries.get?_insert_eq {other : ν} (different : other ≠ name) :
    (entries.insert name v).get? other = (entries.insert name w).get? other := by
  rw [entries.get?_insert_of_ne different, entries.get?_insert_of_ne different]

end Entries

namespace Members

theorem without_insert_of_mem {name : Phrase} {names : List Phrase} (named : name ∈ names)
    (raw : Members) (v : Json) : without (raw.insert name v) names = raw.without names := by
  unfold without
  induction raw with
  | nil => simp [Entries.insert_nil, named]
  | cons entry rest ih =>
      rw [Entries.insert_cons]
      split
      · rename_i own
        simp [own, named]
      · rw [List.filter_cons, List.filter_cons, ih]

theorem without_insert_of_not_mem {name : Phrase} {names : List Phrase} (other : name ∉ names)
    (raw : Members) (v : Json) :
    without (raw.insert name v) names = Entries.insert (raw.without names) name v := by
  unfold without
  induction raw with
  | nil => simp [Entries.insert_nil, other]
  | cons entry rest ih =>
      rw [Entries.insert_cons]
      split
      · rename_i own
        simp [own, other, Entries.insert_cons]
      · rename_i differs
        rw [List.filter_cons, List.filter_cons, ih]
        by_cases stays : entry.1 ∈ names
        · simp [stays]
        · simp [stays, Entries.insert_cons, differs]

end Members

/-! ## One field at a time -/

/-- Whether two records have the same fields with the same values, but for those of an attribute. -/
def Record.SameBut (name : Phrase) (r r' : Record) : Prop :=
  List.Forall₂ (fun field field' => field.1 = field'.1 ∧ (field.1 ≠ name → field.2 = field'.2))
    r.fields r'.fields

section Schemas

variable [Platform] {schema : List (Phrase × FieldType)} {objectId name : Phrase}
  {raw raw' : Members} {fields fields' : List (Phrase × FieldValue)}

/-- Two objects that differ in one attribute differ in its field. -/
theorem IsReadBy.sameBut (read : IsReadBy schema objectId raw fields)
    (read' : IsReadBy schema objectId raw' fields')
    (same : ∀ other, other ≠ name → raw.get? other = raw'.get? other) :
    List.Forall₂ (fun field field' => field.1 = field'.1 ∧ (field.1 ≠ name → field.2 = field'.2))
      fields fields' := by
  induction read generalizing fields' with
  | nil =>
      cases read'
      exact .nil
  | cons first rest ih =>
      cases read' with
      | cons first' rest' =>
          refine .cons ⟨first.1.trans first'.1.symm, fun different => ?_⟩ (ih rest')
          have value := first.2
          rw [first.1] at different
          rw [FieldType.read_congr _ objectId (same _ different), first'.2] at value
          exact (Except.ok.inj value).symm

theorem IsReadBy.names (read : IsReadBy schema objectId raw fields) :
    fields.map Prod.fst = schema.map Prod.fst := by
  induction read with
  | nil => rfl
  | cons first rest ih => rw [List.map_cons, List.map_cons, first.1, ih]

theorem IsReadBy.exists_field {type : FieldType} (read : IsReadBy schema objectId raw fields)
    (listed : (name, type) ∈ schema) :
    ∃ value, (name, value) ∈ fields ∧ type.read objectId raw name = .ok value := by
  induction read with
  | nil => cases listed
  | cons first rest ih => 
      rcases List.mem_cons.mp listed with rfl | later
      · rename_i field _ _
        exact ⟨field.2, List.mem_cons.mpr (.inl (Prod.ext first.1.symm rfl)), first.2⟩
      · obtain ⟨value, member, found⟩ := ih later
        exact ⟨value, List.mem_cons_of_mem _ member, found⟩

/-- Every field is read as its attribute's type. -/
theorem IsReadBy.exists_type {field : Phrase × FieldValue}
    (read : IsReadBy schema objectId raw fields) (listed : field ∈ fields) :
    ∃ type : FieldType, type.read objectId raw field.1 = .ok field.2 := by
  induction read with
  | nil => cases listed
  | cons first rest ih =>
      rcases List.mem_cons.mp listed with rfl | later
      · exact ⟨_, first.1 ▸ first.2⟩
      · exact ih later

end Schemas

/-- A field of a name has one value only. -/
theorem eq_of_mem_of_nodup {fields : List (Phrase × α)} {name : Phrase} {a b : α}
    (distinct : (fields.map Prod.fst).Nodup) (first : (name, a) ∈ fields)
    (second : (name, b) ∈ fields) : a = b :=
  congrArg Prod.snd (List.inj_on_of_nodup_map distinct first second rfl)

namespace HitKind

theorem schema_nodup (kind : HitKind) : (kind.schema.map Prod.fst).Nodup := by
  cases kind <;> decide

/-- The attributes that do not stay are those of the fields; only the location does both. -/
theorem mem_schema_iff (kind : HitKind) (name : Phrase) :
    name ∈ kind.schema.map Prod.fst ↔
      name ∈ kind.typedAttributes ∧ name ≠ "objectID" ∨ kind = .shop ∧ name = "location" := by
  have typed : kind.typedAttributes = Phrase.ofString "objectID" ::
      (kind.schema.map Prod.fst).filter (· != Phrase.ofString "location") := by
    cases kind <;> decide
  have identifier : Phrase.ofString "objectID" ∉ kind.schema.map Prod.fst := by
    cases kind <;> decide
  have location : Phrase.ofString "location" ∈ kind.schema.map Prod.fst ↔ kind = .shop := by
    cases kind <;> decide
  rw [typed]
  by_cases place : name = "location"
  · subst place
    simp [location]
  · constructor
    · intro member
      have different : name ≠ "objectID" := by
        rintro rfl
        exact identifier member
      exact .inl ⟨by simp [member, place], different⟩
    · rintro (⟨member, different⟩ | ⟨-, same⟩)
      · simpa [different, place] using member
      · exact (place same).elim

end HitKind

/-! ## Values that are read apart -/

variable [Platform]

/-- Whether a value can stand wherever an attribute may be asked for. -/
def Json.FitsAnywhere (v : Json) : Prop :=
  ∀ type : FieldType, type.Fits v

/-- The reading of a value under whatever name. -/
def FieldType.readValue (type : FieldType) (objectId : Phrase) (v : Json) : Reading FieldValue :=
  type.read objectId [([], v)] []

theorem FieldType.read_eq_readValue (type : FieldType) (objectId : Phrase) {raw : Members}
    {name : Phrase} {v : Json} (given : raw.get? name = some v) :
    type.read objectId raw name = type.readValue objectId v :=
  type.read_congr objectId given

/-- Whether two values give a field of a type different values. -/
def FieldType.TellsApart (type : FieldType) (v w : Json) : Prop :=
  ∀ objectId a b, type.readValue objectId v = .ok a → type.readValue objectId w = .ok b → a ≠ b

namespace FieldType

theorem fits_null : Json.null.FitsAnywhere := by
  intro type
  cases type with
  | flag | time? => trivial
  | _ => nofun

theorem fits_bool (b : Bool) : (Json.bool b).FitsAnywhere := by
  intro type
  cases type with
  | flag | time? => trivial
  | _ => nofun

/-- A list of texts fits wherever it stands. -/
theorem fits_arr (texts : List Phrase) : (Json.arr (texts.map .str)).FitsAnywhere := by
  intro type
  cases type with
  | flag | time? => trivial
  | texts =>
      rintro _ ⟨⟩ item member
      obtain ⟨text, -, rfl⟩ := List.mem_map.mp member
      nofun
  | _ => nofun

theorem fits_str {s : String} (dateless : Calendar.Iso.read (Text.trim s) ≠ .error .outOfRange) :
    (Json.ofString s).FitsAnywhere := by
  intro type
  cases type with
  | flag => trivial
  | time? =>
      intro text same
      rw [Phrase.string?_ofString] at same
      exact Option.some.inj same ▸ dateless
  | _ => nofun

theorem fits_int {n : Int} (small : n.natAbs < 2 ^ 53) : (Json.int n).FitsAnywhere := by
  have inRange := Decimal.IsWhole.lt_limit small
  have isText : (Json.int n).TextFits := by
    rintro _ ⟨⟩
    exact Platform.allows_digitCount inRange
  have isNumber : (Json.int n).Fits := (Json.fits_int_iff n).mpr inRange
  have isTime : Timestamp.Fits (.int n) := by
    rw [Timestamp.Fits]
    generalize Decimal.limit = limit at inRange ⊢
    omega
  intro type
  cases type with
  | identifier | text | text? => exact isText
  | price | float? | count | int? => exact isNumber
  | time? => exact isTime
  | flag => trivial
  | city | texts => rintro _ ⟨⟩

theorem fits_city (text : Phrase) : (Json.obj [("city", .str text)]).FitsAnywhere := by
  intro type
  cases type with
  | flag => trivial
  | city =>
      rintro _ ⟨⟩ city found
      cases found
      nofun
  | time? =>
      intro seconds found
      cases found
  | _ => nofun

theorem tellsApart {type : FieldType} {v w : Json} {a b : FieldValue}
    (first : ∀ objectId, type.readValue objectId v = .ok a)
    (second : ∀ objectId, type.readValue objectId w = .ok b) (different : a ≠ b) :
    type.TellsApart v w := by
  intro objectId a' b' read read'
  rw [first] at read
  rw [second] at read'
  cases read
  cases read'
  exact different

/-- For each type of field there are two values that it tells apart. -/
theorem exists_apart (type : FieldType) :
    ∃ v w : Json, v.FitsAnywhere ∧ w.FitsAnywhere ∧ type.TellsApart v w := by
  have letters : (Json.ofString "a").FitsAnywhere ∧ (Json.ofString "b").FitsAnywhere :=
    ⟨fits_str (by decide), fits_str (by decide)⟩
  have text_ne : FieldValue.text "a" ≠ .text "b" := by
    simp
  have zero : (Json.int 0).FitsAnywhere := fits_int (by decide)
  cases type with
  | identifier =>
      exact ⟨.ofString "a", .ofString "b", letters.1, letters.2,
        tellsApart (fun _ => rfl) (fun _ => rfl) text_ne⟩
  | text =>
      exact ⟨.ofString "a", .ofString "b", letters.1, letters.2,
        tellsApart (fun _ => rfl) (fun _ => rfl) text_ne⟩
  | text? =>
      have different : FieldValue.text? none ≠ .text? (some "a") := by simp
      exact ⟨.null, .ofString "a", fits_null, letters.1,
        tellsApart (fun _ => rfl) (fun _ => rfl) different⟩
  | city => 
      have different : FieldValue.text? none ≠ .text? (some "a") := by simp
      exact ⟨.null, .obj [("city", .ofString "a")], fits_null, fits_city _,
        tellsApart (fun _ => rfl) (fun _ => rfl) different⟩
  | texts => 
      have different : FieldValue.texts [] ≠ .texts [Phrase.ofString "a"] := by simp
      exact ⟨.null, .arr [.ofString "a"], fits_null, fits_arr [_],
        tellsApart (fun _ => rfl) (fun _ => rfl) different⟩
  | price =>
      have different : FieldValue.float 0 ≠ .float 1 := by
        intro same
        have words := congrArg Float.toBits (FieldValue.float.inj same)
        exact absurd words (by decide)
      exact ⟨.null, .int 1, fits_null, fits_int (by decide),
        tellsApart (fun _ => rfl) (fun _ => rfl) different⟩
  | float? =>
      have different (x : Float) : FieldValue.float? none ≠ .float? (some x) := by simp
      exact ⟨.null, .int 0, fits_null, zero,
        tellsApart (fun _ => rfl) (fun _ => rfl) (different _)⟩
  | count =>
      have different : FieldValue.int 0 ≠ .int 1 := by simp
      exact ⟨.null, .int 1, fits_null, fits_int (by decide),
        tellsApart (fun _ => rfl) (fun _ => rfl) different⟩
  | int? =>
      have different : FieldValue.int? none ≠ .int? (some 0) := by simp
      exact ⟨.null, .int 0, fits_null, zero,
        tellsApart (fun _ => rfl) (fun _ => rfl) different⟩
  | flag =>
      have different : FieldValue.flag true ≠ .flag false := by simp
      exact ⟨.bool true, .bool false, fits_bool _, fits_bool _,
        tellsApart (fun _ => rfl) (fun _ => rfl) different⟩
  | time? => 
      have different (t : Calendar.DateTime) : FieldValue.time? none ≠ .time? (some t) := by simp
      refine ⟨.null, .int 0, fits_null, zero,
        tellsApart (fun _ => rfl) (fun _ => rfl) (different _)⟩

end FieldType

/-! ## Hits -/

/-- What a hit is read from. -/
theorem Hit.ofJson_eq_ok_iff {kind : HitKind} {raw : Members} {hit : Hit} :
    Hit.ofJson kind (.obj raw) = .inr (.ok hit) ↔
      raw.text "objectID" = .ok hit.objectId ∧ hit.objectId ≠ [] ∧
        Record.ofMembers kind hit.objectId raw = .ok hit.record ∧
          hit.extra = raw.without kind.typedAttributes := by
  cases identified : raw.text "objectID" with
  | error fault => simp [Hit.ofJson, identified]
  | ok objectId =>
      rw [Hit.ofJson_obj identified]
      by_cases missing : objectId = []
      · simp only [missing, if_true, reduceCtorEq, Except.ok.injEq, false_iff, not_and]
        exact fun same some_id => absurd same.symm some_id
      · rw [if_neg missing, Sum.inr.injEq, Except.ok.injEq]
        constructor
        · intro read
          obtain ⟨record, found, rest⟩ := exists_of_bind_eq_ok read
          cases rest
          exact ⟨rfl, missing, found, rfl⟩
        · rintro ⟨rfl, -, found, extra⟩
          obtain ⟨objectId, record, others⟩ := hit
          cases extra
          rw [Hit.ofMembers, found]
          rfl

section Hits

variable {kind : HitKind} {raw : Members} {name : Phrase}

theorem Members.text_insert (other : name ≠ "objectID") (raw : Members) (v : Json) :
    Members.text (raw.insert name v) "objectID" = raw.text "objectID" := by
  rw [Members.text, Members.text, raw.get?_insert_of_ne other.symm]

/-- Two hits that are read from objects which differ in one attribute. -/
theorem Hit.sameBut_of_ofJson (other : name ≠ "objectID") {v w : Json} {hit hit' : Hit}
    (read : Hit.ofJson kind (.obj (raw.insert name v)) = .inr (.ok hit))
    (read' : Hit.ofJson kind (.obj (raw.insert name w)) = .inr (.ok hit')) :
    hit.objectId = hit'.objectId ∧ hit.record.SameBut name hit'.record ∧
      hit'.extra = if name ∈ kind.typedAttributes then hit.extra
        else Entries.insert hit.extra name w := by
  obtain ⟨identifier, -, record, extra⟩ := Hit.ofJson_eq_ok_iff.mp read
  obtain ⟨identifier', -, record', extra'⟩ := Hit.ofJson_eq_ok_iff.mp read'
  rw [Members.text_insert other] at identifier identifier'
  have same : hit.objectId = hit'.objectId := Except.ok.inj (identifier.symm.trans identifier')
  rw [← same] at record'
  refine ⟨same, ?_, ?_⟩
  · apply (Record.isReadBy record).sameBut (Record.isReadBy record')
    intro read different
    exact raw.get?_insert_eq name v w different
  · rw [extra, extra']
    split
    · rename_i typed
      rw [Members.without_insert_of_mem typed, Members.without_insert_of_mem typed]
    · rename_i free
      rw [Members.without_insert_of_not_mem free, Members.without_insert_of_not_mem free,
        Entries.insert_insert]

theorem Hit.names_fields {hit : Hit} (read : Hit.ofJson kind (.obj raw) = .inr (.ok hit)) :
    hit.record.fields.map Prod.fst = kind.schema.map Prod.fst := by
  obtain ⟨-, -, record, -⟩ := Hit.ofJson_eq_ok_iff.mp read
  exact (Record.isReadBy record).names

omit [Platform] in
/-- An attribute without a field of its own leaves the record as it is. -/
theorem Record.SameBut.eq {r r' : Record} (same : r.SameBut name r') (sort : r.kind = r'.kind)
    (foreign : name ∉ r.fields.map Prod.fst) : r = r' := by
  apply Record.eq_of_fields sort
  unfold Record.SameBut at same
  generalize r.fields = fields, r'.fields = fields' at same foreign
  induction same with
  | nil => rfl
  | cons first rest ih =>
      rw [List.map_cons, List.mem_cons, not_or] at foreign
      rw [ih foreign.2]
      congr 1
      exact Prod.ext first.1 (first.2 (Ne.symm foreign.1))

/-- An attribute of an object that can be read can be set to any value that fits anywhere. -/
theorem HitKind.fits_insert {v w : Json} (fits : kind.Fits (raw.insert name v))
    (fitting : w.FitsAnywhere) : kind.Fits (raw.insert name w) := by
  have given : ∀ other x, Entries.get? (raw.insert name w) other = some x →
      x = w ∨ Entries.get? (raw.insert name v) other = some x := by
    intro other x found
    by_cases same : other = name
    · subst same
      rw [Entries.get?_insert_self] at found
      exact .inl (Option.some.inj found).symm
    · rw [raw.get?_insert_eq name w v same] at found
      exact .inr found
  intro field listed x found
  rcases given field.1 x found with rfl | before
  · exact fitting field.2
  · exact fits field listed x before

/-- A hit can be read with any value that fits anywhere if it can be read with some value. -/
theorem Hit.exists_ofJson_insert (other : name ≠ "objectID") {u : Json} {hit : Hit}
    (read : Hit.ofJson kind (.obj (raw.insert name u)) = .inr (.ok hit)) {v : Json}
    (fitting : v.FitsAnywhere) :
    ∃ h, Hit.ofJson kind (.obj (raw.insert name v)) = .inr (.ok h) ∧
      IsReadBy kind.schema hit.objectId (raw.insert name v) h.record.fields := by
  obtain ⟨identified, some_id, record, -⟩ := Hit.ofJson_eq_ok_iff.mp read
  have fits := HitKind.fits_insert ((Record.reads_iff _ _ kind).mp ⟨_, record⟩) fitting
  obtain ⟨record', found⟩ := (Record.reads_iff hit.objectId _ kind).mpr fits
  let h : Hit := ⟨hit.objectId, record',
    Members.without (raw.insert name v) kind.typedAttributes⟩
  refine ⟨h, ?_, Record.isReadBy found⟩
  rw [Members.text_insert other] at identified
  rw [Hit.ofJson_eq_ok_iff, Members.text_insert other]
  exact ⟨identified, some_id, found, rfl⟩

/-- Every attribute that does not stay makes a difference. -/
theorem Hit.exists_different (other : name ≠ "objectID") (typed : name ∈ kind.typedAttributes)
    {u : Json} {hit : Hit} (read : Hit.ofJson kind (.obj (raw.insert name u)) = .inr (.ok hit)) :
    ∃ v w h h', Hit.ofJson kind (.obj (raw.insert name v)) = .inr (.ok h) ∧
      Hit.ofJson kind (.obj (raw.insert name w)) = .inr (.ok h') ∧ h.record ≠ h'.record := by
  have named := (kind.mem_schema_iff name).mpr (.inl ⟨typed, other⟩)
  obtain ⟨⟨_, type⟩, listed, rfl⟩ := List.mem_map.mp named
  obtain ⟨v, w, fitting, fitting', apart⟩ := type.exists_apart
  obtain ⟨h, taken, fields⟩ := Hit.exists_ofJson_insert other read fitting
  obtain ⟨h', taken', fields'⟩ := Hit.exists_ofJson_insert other read fitting'
  refine ⟨v, w, h, h', taken, taken', fun same => ?_⟩
  obtain ⟨a, member, value⟩ := fields.exists_field listed
  obtain ⟨b, member', value'⟩ := fields'.exists_field listed
  have distinct : (h.record.fields.map Prod.fst).Nodup := by
    rw [fields.names]
    exact kind.schema_nodup
  rw [type.read_eq_readValue _ (Entries.get?_insert_self ..)] at value value'
  rw [← same] at member'
  exact apart _ a b value value' (eq_of_mem_of_nodup distinct member member')

end Hits

/-- Each attribute of an object feeds its own field and nothing is dropped: two values of an
attribute make a difference in its field and in what stays under its name only; what stays is, in
order and as it came, exactly what is no typed attribute of the kind; and two values of a typed
attribute make a difference in the record. -/
theorem Hit.attributes_feed_own_fields (kind : HitKind) (raw : Members) (name : Phrase)
    (other : name ≠ "objectID") :
    (∀ v w h h', Hit.ofJson kind (.obj (raw.insert name v)) = .inr (.ok h) →
        Hit.ofJson kind (.obj (raw.insert name w)) = .inr (.ok h') →
      h.objectId = h'.objectId ∧ h.record.SameBut name h'.record ∧
        (name ∉ h.record.fields.map Prod.fst → h.record = h'.record) ∧
        h'.extra = if name ∈ kind.typedAttributes then h.extra
          else Entries.insert h.extra name w) ∧
    (∀ h, Hit.ofJson kind (.obj raw) = .inr (.ok h) →
      h.extra = raw.filter (fun entry => entry.1 ∉ kind.typedAttributes) ∧
        (h.record.fields.map Prod.fst).Nodup ∧
        (name ∈ h.record.fields.map Prod.fst ↔
          name ∈ kind.typedAttributes ∨ kind = .shop ∧ name = "location")) ∧
    (name ∈ kind.typedAttributes →
      (∃ u h, Hit.ofJson kind (.obj (raw.insert name u)) = .inr (.ok h)) →
        ∃ v w h h', Hit.ofJson kind (.obj (raw.insert name v)) = .inr (.ok h) ∧
          Hit.ofJson kind (.obj (raw.insert name w)) = .inr (.ok h') ∧ h.record ≠ h'.record) := by
  refine ⟨?_, ?_, ?_⟩
  · intro v w h h' read read'
    obtain ⟨identifier, same, extra⟩ := Hit.sameBut_of_ofJson other read read'
    have sort := (Hit.kind_of_ofJson read).trans (Hit.kind_of_ofJson read').symm
    exact ⟨identifier, same, same.eq sort, extra⟩
  · intro h read
    obtain ⟨-, -, -, extra⟩ := Hit.ofJson_eq_ok_iff.mp read
    have names := Hit.names_fields read
    refine ⟨?_, names ▸ kind.schema_nodup, ?_⟩
    · rw [extra]
      simp [Members.without]
    · rw [names, kind.mem_schema_iff]
      simp [other]
  · rintro typed ⟨u, h, read⟩
    exact Hit.exists_different other typed read

omit [Platform] in
/-- A shop that is given two names, with a rank that no field is for. -/
theorem Hit.attributes_feed_own_fields_of_shop_name :
    letI := Platform.usual
    let raw : Members := [("objectID", .ofString "s1"), ("rank", .int 7)]
    let named (v : Json) := Hit.ofJson .shop (.obj (raw.insert "shopName" v))
    (∃ h h', named (.ofString "North") = .inr (.ok h) ∧ named (.ofString "South") = .inr (.ok h') ∧
      h.record.SameBut "shopName" h'.record ∧ h.record ≠ h'.record ∧
      h.extra = [(Phrase.ofString "rank", .int 7)] ∧ h'.extra = h.extra) ∧
    ∃ v w k k', named v = .inr (.ok k) ∧ named w = .inr (.ok k') ∧ k.record ≠ k'.record := by
  let _ := Platform.usual
  intro raw named
  obtain ⟨apart, -, distinguished⟩ :=
    Hit.attributes_feed_own_fields .shop raw "shopName" (by decide)
  have typed : Phrase.ofString "shopName" ∈ HitKind.shop.typedAttributes := by decide
  obtain ⟨h, read⟩ : ∃ h, named (.ofString "North") = .inr (.ok h) := ⟨_, rfl⟩
  obtain ⟨h', read'⟩ : ∃ h, named (.ofString "South") = .inr (.ok h) := ⟨_, rfl⟩
  obtain ⟨-, same, -, extra⟩ := apart _ _ h h' read read'
  rw [if_pos typed] at extra
  refine ⟨⟨h, h', read, read', same, ?_, ?_, extra⟩, distinguished typed ⟨_, h, read⟩⟩
  · cases read
    cases read'
    intro one
    have names := congrArg Shop.shopName (Record.shop.inj one)
    exact absurd names (by decide)
  · cases read
    rfl

end Bazaar
