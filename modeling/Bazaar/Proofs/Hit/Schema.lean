import Bazaar.Hit.Reading
import Bazaar.Proofs.Outcome
import Mathlib.Data.List.Forall2

/-!
# The fields of a record and their attributes

Each typed field of a record belongs to one attribute of the object that it is read from.  A schema
names the attributes of a kind and how each is read.  Reading a record is reading its schema, so
what holds for every type of field holds for every field of every kind.
-/

namespace Bazaar

/-- The value of a typed field. -/
inductive FieldValue where
  | text (s : Phrase)
  | text? (s : Option Phrase)
  | texts (items : List Phrase)
  | float (x : Float)
  | float? (x : Option Float)
  | int (n : Int)
  | int? (n : Option Int)
  | flag (b : Bool)
  | time? (t : Option Calendar.DateTime)

/-- How the attribute of a field is read. -/
inductive FieldType where
  | identifier
  | text
  | text?
  | city
  | texts
  | price
  | float?
  | count
  | int?
  | flag
  | time?
  deriving DecidableEq

/-- The fields of a shop, each with its attribute; the city belongs to the location. -/
def Shop.fields (s : Shop) : List (Phrase × FieldValue) :=
  [("shopId", .text s.shopId), ("shopName", .text s.shopName), ("ownerName", .text s.ownerName),
    ("ownerId", .text s.ownerId), ("status", .text s.status), ("category", .text? s.category),
    ("location", .text? s.city), ("rating", .float? s.rating),
    ("totalProducts", .int? s.totalProducts), ("verified", .flag s.verified),
    ("createdAt", .time? s.createdAt)]

/-- The fields of a product, each with its attribute. -/
def Product.fields (p : Product) : List (Phrase × FieldValue) :=
  [("productId", .text p.productId), ("productName", .text p.productName),
    ("category", .text p.category), ("price", .float p.price), ("status", .text p.status),
    ("brandModel", .text? p.brandModel), ("subCategory", .text? p.subCategory),
    ("stockQuantity", .int? p.stockQuantity), ("rating", .float? p.rating),
    ("reviewCount", .int? p.reviewCount), ("tags", .texts p.tags), ("createdAt", .time? p.createdAt)]

/-- The fields of a listing, each with its attribute. -/
def Listing.fields (l : Listing) : List (Phrase × FieldValue) :=
  [("shopProductId", .text l.shopProductId), ("shopId", .text l.shopId),
    ("productId", .text l.productId), ("productName", .text l.productName),
    ("shopName", .text l.shopName), ("category", .text l.category), ("price", .float l.price),
    ("shopPrice", .float? l.shopPrice), ("stockQuantity", .int? l.stockQuantity),
    ("status", .text l.status), ("discount", .float? l.discount), ("featured", .flag l.featured),
    ("createdAt", .time? l.createdAt)]

/-- The fields of an item of the order ledger, each with its attribute. -/
def OrderItem.fields (o : OrderItem) : List (Phrase × FieldValue) :=
  [("orderId", .text o.orderId), ("productName", .text o.productName),
    ("brandModel", .text o.brandModel), ("buyerName", .text o.buyerName),
    ("sellerName", .text o.sellerName), ("category", .text o.category),
    ("gatheringStatus", .text? o.gatheringStatus), ("shipmentStatus", .text? o.shipmentStatus),
    ("distributionStatus", .text? o.distributionStatus), ("price", .float o.price),
    ("quantity", .int o.quantity), ("timestamp", .time? o.timestamp)]

/-- The fields of a record, each with its attribute. -/
def Record.fields : Record → List (Phrase × FieldValue)
  | .shop s => s.fields
  | .product p => p.fields
  | .listing l => l.fields
  | .order o => o.fields
  | .generic => []

/-- The attributes of a kind of record and how each is read. -/
def HitKind.schema : HitKind → List (Phrase × FieldType)
  | .shop =>
    [("shopId", .identifier), ("shopName", .text), ("ownerName", .text), ("ownerId", .text),
      ("status", .text), ("category", .text?), ("location", .city), ("rating", .float?),
      ("totalProducts", .int?), ("verified", .flag), ("createdAt", .time?)]
  | .product =>
    [("productId", .identifier), ("productName", .text), ("category", .text), ("price", .price),
      ("status", .text), ("brandModel", .text?), ("subCategory", .text?), ("stockQuantity", .int?),
      ("rating", .float?), ("reviewCount", .int?), ("tags", .texts), ("createdAt", .time?)]
  | .shopProduct =>
    [("shopProductId", .identifier), ("shopId", .text), ("productId", .text),
      ("productName", .text), ("shopName", .text), ("category", .text), ("price", .price),
      ("shopPrice", .float?), ("stockQuantity", .int?), ("status", .text), ("discount", .float?),
      ("featured", .flag), ("createdAt", .time?)]
  | .order =>
    [("orderId", .identifier), ("productName", .text), ("brandModel", .text), ("buyerName", .text),
      ("sellerName", .text), ("category", .text), ("gatheringStatus", .text?),
      ("shipmentStatus", .text?), ("distributionStatus", .text?), ("price", .price),
      ("quantity", .count), ("timestamp", .time?)]
  | .generic => []

variable [Platform]

/-- Reads the attribute of a field; an empty identifier is that of the hit. -/
def FieldType.read (type : FieldType) (objectId : Phrase) (raw : Members) (name : Phrase) :
    Reading FieldValue :=
  match type with
  | .identifier => (raw.textOr name objectId).map .text
  | .text => (raw.text name).map .text
  | .text? => (raw.text? name).map .text?
  | .city =>
    (match raw.get? name with
    | some (.obj location) => Members.text? location "city"
    | _ => .ok none).map .text?
  | .texts => (raw.texts name).map .texts
  | .price => (raw.price name).map .float
  | .float? => (raw.float? name).map .float?
  | .count => (raw.intOr name 0).map .int
  | .int? => (raw.int? name).map .int?
  | .flag => .ok (.flag (raw.flag name))
  | .time? => (raw.time? name).map .time?

/-- Whether a list of fields is what reading a schema gives. -/
def IsReadBy (schema : List (Phrase × FieldType)) (objectId : Phrase) (raw : Members)
    (fields : List (Phrase × FieldValue)) : Prop :=
  List.Forall₂
    (fun entry field => field.1 = entry.1 ∧ entry.2.read objectId raw entry.1 = .ok field.2)
    schema fields

/-- A field is read from its own attribute only. -/
theorem FieldType.read_congr (type : FieldType) (objectId : Phrase) {raw raw' : Members}
    {name name' : Phrase} (same : raw.get? name = raw'.get? name') :
    type.read objectId raw name = type.read objectId raw' name' := by
  cases type <;>
    (unfold read Members.textOr Members.text? Members.text Members.texts Members.price
      Members.float? Members.intOr Members.int? Members.flag Members.time?; rw [same])

/-! ## Records are read by their schemas -/

section Records

variable {objectId : Phrase} {raw : Members}

theorem Shop.isReadBy {s : Shop} (read : Shop.ofMembers objectId raw = .ok s) :
    IsReadBy HitKind.shop.schema objectId raw s.fields := by
  simp only [Shop.ofMembers, bind_eq_ok_iff] at read
  obtain ⟨_, city, _, id, _, name, _, owner, _, ownerId, _, status, _, category, _, rating, _, total,
    _, time, read⟩ := read
  cases read
  have location : FieldType.city.read objectId raw "location" = (Shop.cityOf raw).map .text? := rfl
  simp only [IsReadBy, HitKind.schema, Shop.fields, List.forall₂_cons, List.forall₂_nil_left_iff,
    location]
  simp [FieldType.read, city, id, name, owner, ownerId, status, category, rating, total, time,
    Except.map]

theorem Product.isReadBy {p : Product} (read : Product.ofMembers objectId raw = .ok p) :
    IsReadBy HitKind.product.schema objectId raw p.fields := by
  simp only [Product.ofMembers, bind_eq_ok_iff] at read
  obtain ⟨_, id, _, name, _, category, _, price, _, status, _, brand, _, sub, _, stock, _, rating, _,
    reviews, _, tags, _, time, read⟩ := read
  cases read
  simp [IsReadBy, HitKind.schema, Product.fields, FieldType.read, id, name, category, price, status,
    brand, sub, stock, rating, reviews, tags, time, Except.map]

theorem Listing.isReadBy {l : Listing} (read : Listing.ofMembers objectId raw = .ok l) :
    IsReadBy HitKind.shopProduct.schema objectId raw l.fields := by
  simp only [Listing.ofMembers, bind_eq_ok_iff] at read
  obtain ⟨_, id, _, shopId, _, productId, _, name, _, shop, _, category, _, price, _, shopPrice, _,
    stock, _, status, _, discount, _, time, read⟩ := read
  cases read
  simp [IsReadBy, HitKind.schema, Listing.fields, FieldType.read, id, shopId, productId, name, shop,
    category, price, shopPrice, stock, status, discount, time, Except.map]

theorem OrderItem.isReadBy {o : OrderItem} (read : OrderItem.ofMembers objectId raw = .ok o) :
    IsReadBy HitKind.order.schema objectId raw o.fields := by
  simp only [OrderItem.ofMembers, bind_eq_ok_iff] at read
  obtain ⟨_, id, _, name, _, brand, _, buyer, _, seller, _, category, _, gathering, _, shipment, _,
    distribution, _, price, _, quantity, _, time, read⟩ := read
  cases read
  simp [IsReadBy, HitKind.schema, OrderItem.fields, FieldType.read, id, name, brand, buyer, seller,
    category, gathering, shipment, distribution, price, quantity, time, Except.map]

theorem Record.isReadBy {kind : HitKind} {r : Record}
    (read : Record.ofMembers kind objectId raw = .ok r) :
    IsReadBy kind.schema objectId raw r.fields := by
  cases kind with
  | shop =>
      obtain ⟨s, found, rfl⟩ := exists_of_map_eq_ok read
      exact Shop.isReadBy found
  | product =>
      obtain ⟨p, found, rfl⟩ := exists_of_map_eq_ok read
      exact Product.isReadBy found
  | shopProduct =>
      obtain ⟨l, found, rfl⟩ := exists_of_map_eq_ok read
      exact Listing.isReadBy found
  | order =>
      obtain ⟨o, found, rfl⟩ := exists_of_map_eq_ok read
      exact OrderItem.isReadBy found
  | generic =>
      cases read
      exact .nil

end Records

omit [Platform] in
/-- A record is nothing but its kind and its fields. -/
theorem Record.eq_of_fields {r r' : Record} (kind : r.kind = r'.kind)
    (fields : r.fields = r'.fields) : r = r' := by
  cases r with
  | shop s =>
      cases r' with
      | shop s' =>
          cases s
          cases s'
          simpa [Record.fields, Shop.fields] using fields
      | _ => cases kind
  | product p =>
      cases r' with
      | product p' =>
          cases p
          cases p'
          simpa [Record.fields, Product.fields] using fields
      | _ => cases kind
  | listing l =>
      cases r' with
      | listing l' =>
          cases l
          cases l'
          simpa [Record.fields, Listing.fields] using fields
      | _ => cases kind
  | order o =>
      cases r' with
      | order o' =>
          cases o
          cases o'
          simpa [Record.fields, OrderItem.fields] using fields
      | _ => cases kind
  | generic =>
      cases r' with
      | generic => rfl
      | _ => cases kind

end Bazaar
