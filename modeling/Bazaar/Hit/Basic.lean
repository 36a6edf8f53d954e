import Bazaar.Calendar.DateTime
import Bazaar.Catalog
import Bazaar.Json.Basic

/-!
# Records

The records of each kind of index, with the attributes that have a type of their own.  A hit is a
record with its identifier and all other attributes as they came.
-/

namespace Bazaar

/-- A shop. -/
structure Shop where
  shopId : Phrase
  shopName : Phrase
  ownerName : Phrase
  ownerId : Phrase
  status : Phrase
  category : Option Phrase
  city : Option Phrase
  rating : Option Float
  totalProducts : Option Int
  verified : Bool
  createdAt : Option Calendar.DateTime

/-- A product of the catalogue. -/
structure Product where
  productId : Phrase
  productName : Phrase
  category : Phrase
  price : Float
  status : Phrase
  brandModel : Option Phrase
  subCategory : Option Phrase
  stockQuantity : Option Int
  rating : Option Float
  reviewCount : Option Int
  tags : List Phrase
  createdAt : Option Calendar.DateTime

/-- A product as one shop lists it. -/
structure Listing where
  shopProductId : Phrase
  shopId : Phrase
  productId : Phrase
  productName : Phrase
  shopName : Phrase
  category : Phrase
  price : Float
  shopPrice : Option Float
  stockQuantity : Option Int
  status : Phrase
  discount : Option Float
  featured : Bool
  createdAt : Option Calendar.DateTime

/-- An item of the order ledger. -/
structure OrderItem where
  orderId : Phrase
  productName : Phrase
  brandModel : Phrase
  buyerName : Phrase
  sellerName : Phrase
  category : Phrase
  gatheringStatus : Option Phrase
  shipmentStatus : Option Phrase
  distributionStatus : Option Phrase
  price : Float
  quantity : Int
  timestamp : Option Calendar.DateTime

/-- A record of one of the kinds; a generic one has no typed attributes. -/
inductive Record where
  | shop (s : Shop)
  | product (p : Product)
  | listing (l : Listing)
  | order (o : OrderItem)
  | generic

/-- The kind of a record. -/
def Record.kind : Record → HitKind
  | .shop _ => .shop
  | .product _ => .product
  | .listing _ => .shopProduct
  | .order _ => .order
  | .generic => .generic

/-- A record that a search has found. -/
structure Hit where
  objectId : Phrase
  record : Record
  extra : Members

end Bazaar
