import Bazaar.Failure.Fault
import Bazaar.Hit.Basic
import Bazaar.Log
import Bazaar.Timestamp

/-!
# Records from JSON

Reads the loosely typed objects of an answer.  An attribute of the wrong type counts as missing;
an object without an identifier, and anything that is no object, is left out and reported.
-/

namespace Bazaar

/-- Reading an attribute: the only error is a number out of range, or one too long to be written. -/
abbrev Reading (α : Type) := Except NumberFault α

namespace Members

section Texts

variable [Platform]

/-- A value as trimmed text; numbers are written out, anything else is empty. -/
def textOf : Json → Reading Phrase
  | .str s => .ok s.trim
  | .int n => (Platform.write n).map Phrase.ofString
  | .float x => .ok (Decimal.text x)
  | _ => .ok []

/-- An attribute as text. -/
def text (raw : Members) (name : Phrase) : Reading Phrase :=
  match raw.get? name with
  | some v => textOf v
  | none => .ok []

/-- An attribute as text, or another text when it is empty. -/
def textOr (raw : Members) (name other : Phrase) : Reading Phrase := do
  let s ← raw.text name
  return if s.isEmpty then other else s

/-- An attribute as text that is not empty. -/
def text? (raw : Members) (name : Phrase) : Reading (Option Phrase) := do
  let s ← raw.text name
  return if s.isEmpty then none else some s

/-- An attribute as a list of texts; empty texts are left out. -/
def texts (raw : Members) (name : Phrase) : Reading (List Phrase) :=
  match raw.get? name with
  | some (.arr items) => (items.mapM textOf).map fun texts => texts.filter fun s => !s.isEmpty
  | _ => .ok []

end Texts

/-- A finite number as a double. -/
def floatOf? (v : Json) : Reading (Option Float) :=
  match v with
  | .int n => ((Number.floatOfInt n).map some).mapError .overflow
  | .float x => .ok (if Decimal.isFinite x then some x else none)
  | _ => .ok none

/-- A finite number as an integer, toward zero; an integer beyond the doubles is out of range. -/
def intOf? (v : Json) : Reading (Option Int) :=
  match v with
  | .int n => ((Number.floatOfInt n).map fun _ => some n).mapError .overflow
  | .float x =>
    match Decimal.read x with
    | .finite negative mantissa exponent =>
      .ok (some (Decimal.truncate negative mantissa exponent))
    | _ => .ok none
  | _ => .ok none

/-- An attribute as a double. -/
def float? (raw : Members) (name : Phrase) : Reading (Option Float) :=
  match raw.get? name with
  | some v => floatOf? v
  | none => .ok none

/-- An attribute as an integer. -/
def int? (raw : Members) (name : Phrase) : Reading (Option Int) :=
  match raw.get? name with
  | some v => intOf? v
  | none => .ok none

/-- An attribute as an integer, or another one when it is missing. -/
def intOr (raw : Members) (name : Phrase) (other : Int) : Reading Int := do
  return (← raw.int? name).getD other

/-- An attribute as a price; a missing one is zero, and zero has no sign. -/
def price (raw : Members) (name : Phrase) : Reading Float := do
  match ← raw.float? name with
  | some x => return if x == 0 then 0 else x
  | none => return 0

/-- Whether an attribute is the flag `true`. -/
def flag (raw : Members) (name : Phrase) : Bool :=
  match raw.get? name with
  | some (.bool b) => b
  | _ => false

/-- An attribute as a time. -/
def time? (raw : Members) (name : Phrase) : Reading (Option Calendar.DateTime) :=
  match raw.get? name with
  | some v => (Timestamp.read v).mapError .overflow
  | none => .ok none

/-- The attributes that are not among the named ones, in order. -/
def without (raw : Members) (names : List Phrase) : Members :=
  raw.filter fun (name, _) => !names.contains name

end Members

/-- The attributes with a type of their own, by kind of record. -/
def HitKind.typedAttributes : HitKind → List Phrase
  | .shop =>
    ["objectID", "shopId", "shopName", "ownerName", "ownerId", "status", "category", "rating",
     "totalProducts", "verified", "createdAt"]
  | .product =>
    ["objectID", "productId", "productName", "category", "price", "status", "brandModel",
     "subCategory", "stockQuantity", "rating", "reviewCount", "tags", "createdAt"]
  | .shopProduct =>
    ["objectID", "shopProductId", "shopId", "productId", "productName", "shopName", "category",
     "price", "shopPrice", "stockQuantity", "status", "discount", "featured", "createdAt"]
  | .order =>
    ["objectID", "orderId", "productName", "brandModel", "buyerName", "sellerName", "category",
     "gatheringStatus", "shipmentStatus", "distributionStatus", "price", "quantity", "timestamp"]
  | .generic => ["objectID"]

variable [Platform]

/-- The city of a shop's location, which stays among the other attributes as a whole. -/
def Shop.cityOf (raw : Members) : Reading (Option Phrase) :=
  match raw.get? "location" with
  | some (.obj location) => Members.text? location "city"
  | _ => .ok none

/-- Reads a shop; its city comes first. -/
def Shop.ofMembers (objectId : Phrase) (raw : Members) : Reading Shop := do
  let city ← Shop.cityOf raw
  return {
    shopId := ← raw.textOr "shopId" objectId
    shopName := ← raw.text "shopName"
    ownerName := ← raw.text "ownerName"
    ownerId := ← raw.text "ownerId"
    status := ← raw.text "status"
    category := ← raw.text? "category"
    city := city
    rating := ← raw.float? "rating"
    totalProducts := ← raw.int? "totalProducts"
    verified := raw.flag "verified"
    createdAt := ← raw.time? "createdAt" }

/-- Reads a product. -/
def Product.ofMembers (objectId : Phrase) (raw : Members) : Reading Product := do
  return {
    productId := ← raw.textOr "productId" objectId
    productName := ← raw.text "productName"
    category := ← raw.text "category"
    price := ← raw.price "price"
    status := ← raw.text "status"
    brandModel := ← raw.text? "brandModel"
    subCategory := ← raw.text? "subCategory"
    stockQuantity := ← raw.int? "stockQuantity"
    rating := ← raw.float? "rating"
    reviewCount := ← raw.int? "reviewCount"
    tags := ← raw.texts "tags"
    createdAt := ← raw.time? "createdAt" }

/-- Reads a listing. -/
def Listing.ofMembers (objectId : Phrase) (raw : Members) : Reading Listing := do
  return {
    shopProductId := ← raw.textOr "shopProductId" objectId
    shopId := ← raw.text "shopId"
    productId := ← raw.text "productId"
    productName := ← raw.text "productName"
    shopName := ← raw.text "shopName"
    category := ← raw.text "category"
    price := ← raw.price "price"
    shopPrice := ← raw.float? "shopPrice"
    stockQuantity := ← raw.int? "stockQuantity"
    status := ← raw.text "status"
    discount := ← raw.float? "discount"
    featured := raw.flag "featured"
    createdAt := ← raw.time? "createdAt" }

/-- Reads an item of the order ledger. -/
def OrderItem.ofMembers (objectId : Phrase) (raw : Members) : Reading OrderItem := do
  return {
    orderId := ← raw.textOr "orderId" objectId
    productName := ← raw.text "productName"
    brandModel := ← raw.text "brandModel"
    buyerName := ← raw.text "buyerName"
    sellerName := ← raw.text "sellerName"
    category := ← raw.text "category"
    gatheringStatus := ← raw.text? "gatheringStatus"
    shipmentStatus := ← raw.text? "shipmentStatus"
    distributionStatus := ← raw.text? "distributionStatus"
    price := ← raw.price "price"
    quantity := ← raw.intOr "quantity" 0
    timestamp := ← raw.time? "timestamp" }

/-- Reads a record of a kind. -/
def Record.ofMembers (kind : HitKind) (objectId : Phrase) (raw : Members) : Reading Record :=
  match kind with
  | .shop => (Shop.ofMembers objectId raw).map .shop
  | .product => (Product.ofMembers objectId raw).map .product
  | .shopProduct => (Listing.ofMembers objectId raw).map .listing
  | .order => (OrderItem.ofMembers objectId raw).map .order
  | .generic => .ok .generic

/-- Reads a hit whose identifier is known. -/
def Hit.ofMembers (kind : HitKind) (objectId : Phrase) (raw : Members) : Reading Hit := do
  let record ← Record.ofMembers kind objectId raw
  return ⟨objectId, record, raw.without kind.typedAttributes⟩

omit [Platform] in
/-- What is reported about something that is no object. -/
def Hit.skippedValue (v : Json) : LogEntry :=
  ⟨.debug, "Skip non-object hit: " ++ v.shown⟩

omit [Platform] in
/-- What is reported about an object without an identifier. -/
def Hit.skippedObject (raw : Members) : LogEntry :=
  ⟨.debug, "Skip hit without objectID: keys=" ++
    (Json.arr ((Phrase.sorted raw.names).map .str)).shown⟩

/-- What one element of an answer gives: a hit, or a report that it was left out. -/
def Hit.ofJson (kind : HitKind) (v : Json) : Sum LogEntry (Reading Hit) :=
  match v with
  | .obj raw =>
    match Members.text raw "objectID" with
    | .error fault => .inr (.error fault)
    | .ok objectId =>
      if objectId.isEmpty then .inl (skippedObject raw)
      else .inr (Hit.ofMembers kind objectId raw)
  | v => .inl (skippedValue v)

omit [Platform] in
/-- What is raised for a value that nests too deep to be shown. -/
def Hit.tooDeep : Raised :=
  .fault (Fault.simple .recursion
    "maximum recursion depth exceeded while getting the repr of an object")

/-- Whether something that is left out can be reported.  Of an object only the names are shown. -/
def Hit.isReportable : Json → Bool
  | .obj _ => true
  | v => Platform.shownLevels.all fun levels => v.depth ≤ levels

/-- The hits of an answer, with the reports that arose before anything was raised. -/
def Hit.listOfJson (kind : HitKind) : List Json → List LogEntry × Except Raised (List Hit)
  | [] => ([], .ok [])
  | v :: rest =>
    match Hit.ofJson kind v with
    | .inl entry =>
      if Hit.isReportable v then
        let (log, hits) := listOfJson kind rest
        (entry :: log, hits)
      else ([], .error tooDeep)
    | .inr (.error fault) => ([], .error fault.raised)
    | .inr (.ok hit) =>
      let (log, hits) := listOfJson kind rest
      (log, hits.map (hit :: ·))

end Bazaar
