import Bazaar.Proofs.Decimal.Range
import Bazaar.Proofs.Hit.Schema
import Bazaar.Proofs.Platform
import Bazaar.Proofs.Text.Phrase
import Bazaar.Result.Response

/-!
# Which answers can be read

An attribute of the wrong type counts as missing, so almost every object is a record.  What keeps an
answer from being read is a number that is asked for as a double and lies beyond the doubles, a time
behind the last year, an integer that is asked for as text and is too long to be written, or
something that is no object and too deep to be reported.  Here this is said of the values
themselves, for the attributes that each kind of record asks for.
-/

namespace Bazaar

/-- Whether what is raised is no failure of a search but ends it: a number out of range, or a value
that is too long or too deep. -/
def Raised.Escapes : Raised → Prop
  | .failure _ => False
  | .fault f => f.kind = .value ∨ f.kind = .recursion
  | .overflow _ => True

theorem NumberFault.escapes_raised (fault : NumberFault) : fault.raised.Escapes := by
  cases fault with
  | overflow o => trivial
  | writing limit => exact .inl rfl
  | reading limit digits => exact .inl rfl

/-! ## Numbers -/

/-- Whether a number is a double, or an integer that has a double nearest to it. -/
def Number.Fits : Number → Prop
  | .int n => n.natAbs < Decimal.limit
  | .float _ => True

theorem Number.reads_toFloat_iff (n : Number) : Reads n.toFloat ↔ n.Fits := by
  cases n with
  | int n => exact floatOfInt_eq_ok_iff n
  | float x => exact iff_of_true (reads_ok x) trivial

/-- Whether a value is no number beyond the doubles. -/
def Json.Fits (v : Json) : Prop :=
  ∀ n, Timestamp.number? v = some n → n.Fits

theorem Json.fits_int_iff (n : Int) : (Json.int n).Fits ↔ n.natAbs < Decimal.limit :=
  ⟨fun fits => fits _ rfl, fun small _ found => Option.some.inj found ▸ small⟩

theorem Json.fits_float (x : Float) : (Json.float x).Fits :=
  fun _ found => Option.some.inj found ▸ trivial

theorem Json.fits_of_number?_eq_none {v : Json} (noNumber : Timestamp.number? v = none) : v.Fits :=
  fun n found => by rw [noNumber] at found; contradiction

namespace Members

theorem reads_floatOf?_iff (v : Json) : Reads (floatOf? v) ↔ v.Fits := by
  cases v with
  | int n =>
      rw [Json.fits_int_iff, ← Number.floatOfInt_eq_ok_iff]
      exact reads_mapError_iff.trans reads_map_iff
  | float x => exact iff_of_true (reads_ok _) (Json.fits_float x)
  | _ => exact iff_of_true (reads_ok _) (Json.fits_of_number?_eq_none rfl)

theorem reads_intOf?_iff (v : Json) : Reads (intOf? v) ↔ v.Fits := by
  cases v with
  | int n =>
      rw [Json.fits_int_iff, ← Number.floatOfInt_eq_ok_iff]
      exact reads_mapError_iff.trans reads_map_iff
  | float x =>
      refine iff_of_true ?_ (Json.fits_float x)
      unfold intOf?
      dsimp only
      split
      · exact reads_ok _
      · exact reads_ok _
  | _ => exact iff_of_true (reads_ok _) (Json.fits_of_number?_eq_none rfl)

end Members

/-! ## Times -/

namespace Timestamp

/-- Whether reading a value as a time takes no number beyond the doubles and ends at no day behind
the last year.  Seconds and milliseconds since 1970 may lie outside the calendar, which makes them
no time at all. -/
def Fits : Json → Prop
  | .obj members =>
    ∀ seconds, (firstOf members "_seconds" "seconds").bind number? = some seconds →
      seconds.Fits ∧
        ∀ nanos, (firstOf members "_nanoseconds" "nanoseconds").bind number? = some nanos →
          nanos.Fits
  | .int n => n < (Decimal.limit * 1000 : Nat)
  | .str p => ∀ s, p.string? = some s → Calendar.Iso.read (Text.trim s) ≠ .error .outOfRange
  | _ => True

theorem reads_ofObject_iff (members : Members) :
    Reads (ofObject members) ↔ Fits (.obj members) := by
  have zero : (Number.int 0).Fits := (Json.fits_int_iff 0).mpr (by decide +kernel) _ rfl
  unfold ofObject
  change _ ↔ ∀ seconds, (firstOf members "_seconds" "seconds").bind number? = some seconds →
    seconds.Fits ∧
      ∀ nanos, (firstOf members "_nanoseconds" "nanoseconds").bind number? = some nanos →
        nanos.Fits
  generalize (firstOf members "_nanoseconds" "nanoseconds").bind number? = part
  cases (firstOf members "_seconds" "seconds").bind number? with
  | none => exact iff_of_true (reads_ok _) (by simp)
  | some seconds =>
      refine (reads_bind_iff fun _ => reads_bind_of_reads fun _ => reads_pure _).trans ?_
      rw [Number.reads_toFloat_iff, Number.reads_toFloat_iff]
      cases part with
      | none => simp [zero]
      | some nanos => simp [and_comm]

theorem reads_ofInt_iff (n : Int) : Reads (ofNumber (.int n)) ↔ Fits (.int n) := by
  have large : 100000000000 < Decimal.limit * 1000 := by decide +kernel
  unfold ofNumber Fits
  split_ifs with above
  · -- Milliseconds are divided by a thousand, which may leave the doubles.
    have positive : (100000000000 : Int) < n := of_decide_eq_true above
    rw [reads_bind_of_reads fun _ => reads_pure _, Reads, Number.divideInt_eq_ok_iff n (by decide)]
    generalize Decimal.limit * 1000 = limit
    omega
  · have small : n ≤ (100000000000 : Int) := Int.not_lt.mp fun less => above (decide_eq_true less)
    refine iff_of_true (reads_ok _) ?_
    generalize Decimal.limit * 1000 = limit at large ⊢
    omega

theorem reads_ofFloat (x : Float) : Reads (ofNumber (.float x)) := by
  unfold ofNumber
  split_ifs
  · exact reads_ok _
  · exact reads_ok _

theorem reads_ofText_iff (s : String) :
    Reads (ofText s) ↔ Calendar.Iso.read (Text.trim s) ≠ .error .outOfRange := by
  unfold ofText
  dsimp only
  split_ifs with blank
  · have empty : Text.trim s = "" := String.isEmpty_iff.mp blank
    rw [empty]
    exact iff_of_true (reads_ok _) (by decide)
  · cases Calendar.Iso.read (Text.trim s) with
    | ok t => exact iff_of_true (reads_ok _) nofun
    | error fault =>
        cases fault with
        | malformed => exact iff_of_true (reads_ok _) nofun
        | outOfRange => exact iff_of_false (not_reads_error _) fun other => other rfl

theorem reads_ofPhrase_iff (p : Phrase) : Reads (ofPhrase p) ↔ Fits (.str p) := by
  rw [ofPhrase, Fits]
  cases p.string? with
  | none => simp
  | some s => simp [reads_ofText_iff]

theorem reads_iff (v : Json) : Reads (read v) ↔ Fits v := by
  cases v with
  | obj members => exact reads_ofObject_iff members
  | int n => exact reads_ofInt_iff n
  | str s => exact reads_ofPhrase_iff s
  | float x => exact iff_of_true (reads_ofFloat x) trivial
  | _ => exact iff_of_true (reads_ok _) trivial

end Timestamp

/-! ## Texts -/

section Texts

variable [Platform]

/-- Whether a value is no integer with more digits than are written. -/
def Json.TextFits (v : Json) : Prop :=
  ∀ n, v = .int n → Platform.Allows (Platform.digitCount n)

namespace Members

theorem reads_textOf_iff (v : Json) : Reads (textOf v) ↔ v.TextFits := by
  cases v with
  | int n =>
      rw [textOf, reads_map_iff, Platform.reads_write_iff]
      exact ⟨fun allows _ same => Json.int.inj same ▸ allows, fun fits => fits n rfl⟩
  | _ => exact iff_of_true (reads_ok _) nofun

theorem reads_mapM_textOf_iff (items : List Json) :
    Reads (items.mapM textOf) ↔ ∀ v ∈ items, v.TextFits := by
  induction items with
  | nil => exact iff_of_true (reads_pure _) nofun
  | cons v rest ih =>
      rw [List.mapM_cons, List.forall_mem_cons, ← reads_textOf_iff, ← ih]
      exact reads_bind_iff fun _ => reads_bind_of_reads fun _ => reads_pure _

end Members

end Texts

/-! ## Fields -/

variable [Platform]

/-- Whether a field of a type can be read from a value. -/
def FieldType.Fits : FieldType → Json → Prop
  | .identifier, v | .text, v | .text?, v => v.TextFits
  | .city, v => ∀ location, v = .obj location →
    ∀ city, Entries.get? location "city" = some city → city.TextFits
  | .texts, v => ∀ items, v = .arr items → ∀ item ∈ items, item.TextFits
  | .price, v | .float?, v | .count, v | .int?, v => v.Fits
  | .flag, _ => True
  | .time?, v => Timestamp.Fits v

namespace Members

variable (raw : Members) (name : Phrase)

theorem reads_text_iff : Reads (raw.text name) ↔ ∀ v, raw.get? name = some v → v.TextFits := by
  unfold text
  cases raw.get? name with
  | none => exact iff_of_true (reads_ok _) nofun
  | some v => simp [reads_textOf_iff]

theorem reads_textOr_iff (other : Phrase) : Reads (raw.textOr name other) ↔ Reads (raw.text name) :=
  reads_bind_of_reads fun _ => reads_pure _

theorem reads_text?_iff : Reads (raw.text? name) ↔ Reads (raw.text name) :=
  reads_bind_of_reads fun _ => reads_pure _

theorem reads_texts_iff :
    Reads (raw.texts name) ↔ ∀ v, raw.get? name = some v → FieldType.texts.Fits v := by
  unfold texts
  split
  · rename_i items found
    simp [found, reads_mapM_textOf_iff, FieldType.Fits]
  · rename_i other
    refine iff_of_true (reads_ok _) ?_
    rintro v found items rfl
    exact absurd found (other items)

omit [Platform] in
theorem reads_float?_iff : Reads (raw.float? name) ↔ ∀ v, raw.get? name = some v → v.Fits := by
  unfold float?
  cases raw.get? name with
  | none => exact iff_of_true (reads_ok _) nofun
  | some v => simp [reads_floatOf?_iff]

omit [Platform] in
theorem reads_int?_iff : Reads (raw.int? name) ↔ ∀ v, raw.get? name = some v → v.Fits := by
  unfold int?
  cases raw.get? name with
  | none => exact iff_of_true (reads_ok _) nofun
  | some v => simp [reads_intOf?_iff]

omit [Platform] in
theorem reads_time?_iff :
    Reads (raw.time? name) ↔ ∀ v, raw.get? name = some v → Timestamp.Fits v := by
  unfold time?
  cases raw.get? name with
  | none => exact iff_of_true (reads_ok _) nofun
  | some v => simp [Timestamp.reads_iff]

omit [Platform] in
theorem reads_intOr_iff (other : Int) : Reads (raw.intOr name other) ↔ Reads (raw.int? name) :=
  reads_bind_of_reads fun _ => reads_pure _

omit [Platform] in
theorem reads_price_iff : Reads (raw.price name) ↔ Reads (raw.float? name) := by
  refine reads_bind_of_reads fun price? => ?_
  cases price? with
  | none => exact reads_pure _
  | some x => exact reads_pure _

end Members

/-- A field can be read exactly if its attribute is missing or fits. -/
theorem FieldType.reads_iff (type : FieldType) (objectId : Phrase) (raw : Members) (name : Phrase) :
    Reads (type.read objectId raw name) ↔ ∀ v, raw.get? name = some v → type.Fits v := by
  cases type with
  | identifier =>
      exact reads_map_iff.trans ((raw.reads_textOr_iff name _).trans (raw.reads_text_iff name))
  | text => exact reads_map_iff.trans (raw.reads_text_iff name)
  | text? => exact reads_map_iff.trans ((raw.reads_text?_iff name).trans (raw.reads_text_iff name))
  | city =>
      rw [read, reads_map_iff]
      split
      · rename_i location found
        rw [Members.reads_text?_iff, Members.reads_text_iff]
        simp [found, Fits]
      · rename_i other
        refine iff_of_true (reads_ok _) ?_
        rintro v found location rfl
        exact absurd found (other location)
  | texts => exact reads_map_iff.trans (raw.reads_texts_iff name)
  | price =>
      exact reads_map_iff.trans ((raw.reads_price_iff name).trans (raw.reads_float?_iff name))
  | float? => exact reads_map_iff.trans (raw.reads_float?_iff name)
  | count => exact reads_map_iff.trans ((raw.reads_intOr_iff name 0).trans (raw.reads_int?_iff name))
  | int? => exact reads_map_iff.trans (raw.reads_int?_iff name)
  | flag => exact iff_of_true (reads_ok _) fun _ _ => trivial
  | time? => exact reads_map_iff.trans (raw.reads_time?_iff name)

/-! ## Records -/

/-- Whether all that a kind of record asks for can be read. -/
def HitKind.Fits (kind : HitKind) (raw : Members) : Prop :=
  ∀ field ∈ kind.schema, ∀ v, raw.get? field.1 = some v → field.2.Fits v

section Records

variable (objectId : Phrase) (raw : Members)

theorem HitKind.fits_iff (kind : HitKind) : kind.Fits raw ↔
    ∀ field ∈ kind.schema, Reads (field.2.read objectId raw field.1) :=
  forall₂_congr fun field _ => (field.2.reads_iff objectId raw field.1).symm

theorem Shop.reads_iff : Reads (Shop.ofMembers objectId raw) ↔ HitKind.shop.Fits raw := by
  refine (reads_bind_iff fun _ => reads_bind_iff fun _ => reads_bind_iff fun _ =>
    reads_bind_iff fun _ => reads_bind_iff fun _ => reads_bind_iff fun _ => reads_bind_iff fun _ =>
    reads_bind_iff fun _ => reads_bind_iff fun _ => reads_bind_of_reads fun _ =>
    reads_pure _).trans ?_
  have location : Reads (Shop.cityOf raw) ↔ Reads (FieldType.city.read objectId raw "location") :=
    reads_map_iff.symm
  rw [HitKind.fits_iff objectId, location]
  -- The city is read first, before the fields that stand in front of it.
  simp [HitKind.schema, FieldType.read, and_left_comm]

theorem Product.reads_iff : Reads (Product.ofMembers objectId raw) ↔ HitKind.product.Fits raw := by
  refine (reads_bind_iff fun _ => reads_bind_iff fun _ => reads_bind_iff fun _ =>
    reads_bind_iff fun _ => reads_bind_iff fun _ => reads_bind_iff fun _ => reads_bind_iff fun _ =>
    reads_bind_iff fun _ => reads_bind_iff fun _ => reads_bind_iff fun _ => reads_bind_iff fun _ =>
    reads_bind_of_reads fun _ => reads_pure _).trans ?_
  rw [HitKind.fits_iff objectId]
  simp [HitKind.schema, FieldType.read]

theorem Listing.reads_iff :
    Reads (Listing.ofMembers objectId raw) ↔ HitKind.shopProduct.Fits raw := by
  refine (reads_bind_iff fun _ => reads_bind_iff fun _ => reads_bind_iff fun _ =>
    reads_bind_iff fun _ => reads_bind_iff fun _ => reads_bind_iff fun _ => reads_bind_iff fun _ =>
    reads_bind_iff fun _ => reads_bind_iff fun _ => reads_bind_iff fun _ => reads_bind_iff fun _ =>
    reads_bind_of_reads fun _ => reads_pure _).trans ?_
  rw [HitKind.fits_iff objectId]
  simp [HitKind.schema, FieldType.read]

theorem OrderItem.reads_iff :
    Reads (OrderItem.ofMembers objectId raw) ↔ HitKind.order.Fits raw := by
  refine (reads_bind_iff fun _ => reads_bind_iff fun _ => reads_bind_iff fun _ =>
    reads_bind_iff fun _ => reads_bind_iff fun _ => reads_bind_iff fun _ => reads_bind_iff fun _ =>
    reads_bind_iff fun _ => reads_bind_iff fun _ => reads_bind_iff fun _ => reads_bind_iff fun _ =>
    reads_bind_of_reads fun _ => reads_pure _).trans ?_
  rw [HitKind.fits_iff objectId]
  simp [HitKind.schema, FieldType.read]

/-- A record of a kind can be read exactly if all that the kind asks for can. -/
theorem Record.reads_iff (kind : HitKind) :
    Reads (Record.ofMembers kind objectId raw) ↔ kind.Fits raw := by
  cases kind with
  | shop => exact reads_map_iff.trans (Shop.reads_iff objectId raw)
  | product => exact reads_map_iff.trans (Product.reads_iff objectId raw)
  | shopProduct => exact reads_map_iff.trans (Listing.reads_iff objectId raw)
  | order => exact reads_map_iff.trans (OrderItem.reads_iff objectId raw)
  | generic => exact iff_of_true (reads_ok _) nofun

theorem Hit.reads_iff (kind : HitKind) :
    Reads (Hit.ofMembers kind objectId raw) ↔ kind.Fits raw :=
  (reads_bind_of_reads fun _ => reads_pure _).trans (Record.reads_iff objectId raw kind)

end Records

/-- Whether a value holds a hit that can be read, or none and can be reported. -/
def Json.FitsKind (kind : HitKind) (v : Json) : Prop :=
  Hit.isReportable v = true ∧ ∀ raw, v = .obj raw → Reads (Members.text raw "objectID") ∧
    ∀ objectId, Members.text raw "objectID" = .ok objectId → objectId ≠ [] → kind.Fits raw

namespace Hit

variable {kind : HitKind} {v : Json}

/-- What an object with an identifier that can be read gives. -/
theorem ofJson_obj {raw : Members} {objectId : Phrase}
    (identified : Members.text raw "objectID" = .ok objectId) :
    Hit.ofJson kind (.obj raw) =
      if objectId = [] then .inl (skippedObject raw)
      else .inr (Hit.ofMembers kind objectId raw) := by
  rw [Hit.ofJson, identified]
  simp [List.isEmpty_iff]

theorem fitsKind_iff_of_skipped {entry : LogEntry} (skipped : Hit.ofJson kind v = .inl entry) :
    v.FitsKind kind ↔ isReportable v = true := by
  refine and_iff_left ?_
  rintro raw rfl
  cases identified : Members.text raw "objectID" with
  | error fault => simp [Hit.ofJson, identified] at skipped
  | ok objectId =>
      rw [ofJson_obj identified] at skipped
      refine ⟨reads_ok _, ?_⟩
      rintro _ ⟨⟩ some_id
      rw [if_neg some_id] at skipped
      cases skipped

theorem reads_iff_fitsKind {hit : Reading Hit} (taken : Hit.ofJson kind v = .inr hit) :
    Reads hit ↔ v.FitsKind kind := by
  cases v with
  | obj raw =>
      cases identified : Members.text raw "objectID" with
      | error fault =>
          obtain rfl : .error fault = hit := by simpa [Hit.ofJson, identified] using taken
          refine iff_of_false (not_reads_error fault) fun fits => ?_
          have reads := (fits.2 raw rfl).1
          rw [identified] at reads
          exact not_reads_error fault reads
      | ok objectId =>
          rw [ofJson_obj identified] at taken
          split_ifs at taken with some_id
          cases taken
          rw [Hit.reads_iff]
          constructor
          · intro fits
            refine ⟨rfl, ?_⟩
            rintro _ ⟨⟩
            exact ⟨identified ▸ reads_ok _, fun _ _ _ => fits⟩
          · exact fun fits => (fits.2 raw rfl).2 objectId identified some_id
  | _ => cases taken

/-- The hits of an answer can be read exactly if each of them can, and everything else can be
reported. -/
theorem reads_listOfJson_iff (kind : HitKind) (items : List Json) :
    Reads (Hit.listOfJson kind items).2 ↔ ∀ v ∈ items, v.FitsKind kind := by
  induction items with
  | nil => exact iff_of_true (reads_ok _) nofun
  | cons v rest ih =>
      rw [List.forall_mem_cons, Hit.listOfJson]
      cases found : Hit.ofJson kind v with
      | inl entry =>
          rw [fitsKind_iff_of_skipped found, ← ih]
          dsimp only
          split_ifs with reportable
          · exact (and_iff_right reportable).symm
          · exact iff_of_false (not_reads_error _) fun both => reportable both.1
      | inr hit =>
          rw [← reads_iff_fitsKind found]
          cases hit with
          | error fault =>
              exact iff_of_false (not_reads_error _) fun both => not_reads_error fault both.1
          | ok hit => exact (reads_map_iff.trans ih).trans (and_iff_right (reads_ok hit)).symm

/-- What keeps the hits of an answer from being read is no failure of the search. -/
theorem escapes_of_listOfJson {items : List Json} {raised : Raised}
    (failed : (Hit.listOfJson kind items).2 = .error raised) : raised.Escapes := by
  induction items with
  | nil => cases failed
  | cons v rest ih =>
      rw [Hit.listOfJson] at failed
      split at failed
      · split_ifs at failed
        · exact ih failed
        · cases failed
          exact .inr rfl
      · rename_i fault _
        cases failed
        exact fault.escapes_raised
      · cases others : (Hit.listOfJson kind rest).2 with
        | ok hits =>
            simp [others, Except.map] at failed
        | error raised' =>
            simp only [others, Except.map, Except.error.injEq] at failed
            exact ih (others.trans (congrArg _ failed))

end Hit

/-! ## Answers -/

namespace Response

/-- What an answer says about paging. -/
def paging : List Phrase :=
  ["nbHits", "page", "nbPages", "hitsPerPage", "processingTimeMS"]

/-- Whether everything in an answer with a list of hits can be read. -/
def Fits (kind : HitKind) (payload : Members) (items : List Json) : Prop :=
  (∀ v ∈ items, v.FitsKind kind) ∧
    ∀ name ∈ paging, ∀ v, payload.get? name = some v → v.Fits

omit [Platform] in
theorem reads_withPaging_iff (payload : Members) (hits : List Hit) (hitsPerPage : Int) :
    Reads (withPaging payload hits hitsPerPage) ↔
      ∀ name ∈ paging, ∀ v, payload.get? name = some v → v.Fits := by
  refine (reads_bind_iff fun _ => reads_bind_iff fun _ => reads_bind_iff fun _ =>
    reads_bind_iff fun _ => reads_bind_of_reads fun _ => reads_pure _).trans ?_
  simp [paging, Members.reads_intOr_iff, Members.reads_int?_iff]

/-- What an answer with a list of hits comes to. -/
def ofItems (payload : Members) (kind : HitKind) (hitsPerPage : Int) (items : List Json) :
    Except Raised Response := do
  let hits ← (Hit.listOfJson kind items).2
  (withPaging payload hits hitsPerPage).mapError NumberFault.raised

variable {payload : Members} {kind : HitKind} (hitsPerPage : Int) {items : List Json}

theorem reads_ofItems_iff :
    Reads (ofItems payload kind hitsPerPage items) ↔ Fits kind payload items := by
  refine (reads_bind_iff fun hits =>
    reads_mapError_iff.trans (reads_withPaging_iff payload hits hitsPerPage)).trans ?_
  rw [Hit.reads_listOfJson_iff, Fits]

theorem escapes_of_ofItems {raised : Raised}
    (failed : ofItems payload kind hitsPerPage items = .error raised) : raised.Escapes := by
  unfold ofItems at failed
  cases read : (Hit.listOfJson kind items).2 with
  | error raised' =>
      rw [read] at failed
      cases failed
      exact Hit.escapes_of_listOfJson read
  | ok hits =>
      rw [read] at failed
      obtain ⟨fault, -, rfl⟩ := exists_of_mapError_eq_error failed
      exact fault.escapes_raised

theorem ofMembers_of_no_hits (kind : HitKind)
    (unlisted : ∀ items, payload.get? "hits" ≠ some (.arr items)) :
    ofMembers payload kind hitsPerPage = ([], .error (.failure noHits)) := by
  unfold ofMembers
  split
  · rename_i items listed
    exact absurd listed (unlisted items)
  · rfl

section Listed

variable (listed : payload.get? "hits" = some (.arr items))

include listed

theorem ofMembers_of_hits :
    (ofMembers payload kind hitsPerPage).2 = ofItems payload kind hitsPerPage items := by
  simp only [ofMembers, listed, ofItems]
  rcases Hit.listOfJson kind items with ⟨log, raised | hits⟩ <;> rfl

/-- An answer that can be read is a response. -/
theorem exists_ofMembers_eq_ok (fits : Fits kind payload items) :
    ∃ answer, (ofMembers payload kind hitsPerPage).2 = .ok answer := by
  rw [ofMembers_of_hits hitsPerPage listed]
  exact (reads_ofItems_iff hitsPerPage).mpr fits

/-- An answer that cannot be read raises something which is no failure of a search. -/
theorem exists_ofMembers_eq_error (misfit : ¬Fits kind payload items) :
    ∃ raised, (ofMembers payload kind hitsPerPage).2 = .error raised ∧ raised.Escapes := by
  rw [← reads_ofItems_iff hitsPerPage] at misfit
  obtain ⟨raised, failed⟩ := exists_error_of_not_reads misfit
  rw [ofMembers_of_hits hitsPerPage listed]
  exact ⟨raised, failed, escapes_of_ofItems hitsPerPage failed⟩

end Listed

/-- The only failure of an answer is that it has no hits. -/
theorem eq_noHits {f : Failure}
    (failed : (ofMembers payload kind hitsPerPage).2 = .error (.failure f)) : f = noHits := by
  by_cases listed : ∃ items, payload.get? "hits" = some (.arr items)
  · obtain ⟨items, listed⟩ := listed
    rw [ofMembers_of_hits hitsPerPage listed] at failed
    exact (escapes_of_ofItems hitsPerPage failed).elim
  · rw [ofMembers_of_no_hits hitsPerPage kind (not_exists.mp listed)] at failed
    cases failed
    rfl

/-- An answer either gives a response, or is the failure of an answer without hits, or raises
something else. -/
theorem ofMembers_cases (payload : Members) (kind : HitKind) (hitsPerPage : Int) :
    let answer := (ofMembers payload kind hitsPerPage).2
    (Reads answer ↔ ∃ items, payload.get? "hits" = some (.arr items) ∧ Fits kind payload items) ∧
      (answer = .error (.failure noHits) ↔
        ∀ items, payload.get? "hits" ≠ some (.arr items)) ∧
      ((∃ raised, answer = .error raised ∧ raised.Escapes) ↔
        ∃ items, payload.get? "hits" = some (.arr items) ∧ ¬Fits kind payload items) := by
  intro answer
  by_cases listed : ∃ items, payload.get? "hits" = some (.arr items)
  · obtain ⟨items, listed⟩ := listed
    have only : ∀ items', payload.get? "hits" = some (.arr items') ↔ items = items' := by
      simp [listed]
    by_cases fits : Fits kind payload items
    · obtain ⟨response, read⟩ := exists_ofMembers_eq_ok hitsPerPage listed fits
      simp [answer, read, only, fits]
    · obtain ⟨raised, failed, escapes⟩ := exists_ofMembers_eq_error hitsPerPage listed fits
      have other : raised ≠ .failure noHits := by
        rintro rfl
        exact escapes
      simp [answer, failed, only, fits, escapes, other]
  · rw [not_exists] at listed
    have none := ofMembers_of_no_hits hitsPerPage kind listed
    simp [answer, none, listed, Raised.Escapes]

end Response

end Bazaar
