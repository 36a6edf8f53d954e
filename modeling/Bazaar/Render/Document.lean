import Bazaar.Json.Writer
import Bazaar.Result.Basic

/-!
# Results as JSON

The JSON form of hits, results and totals.  A hit has the attributes of its kind, then all other
attributes, then its kind.
-/

namespace Bazaar.Render

/-- A value that may be missing. -/
def optional (f : α → Json) : Option α → Json
  | some a => f a
  | none => .null

/-- A time as ISO 8601 text. -/
def time (t : Option Calendar.DateTime) : Json :=
  optional (fun t => .ofString t.iso) t

/-- The attributes of a shop. -/
def shop (s : Shop) : Members :=
  [("shop_id", .str s.shopId), ("shop_name", .str s.shopName), ("owner_name", .str s.ownerName),
   ("owner_id", .str s.ownerId), ("status", .str s.status),
   ("category", optional .str s.category), ("city", optional .str s.city),
   ("rating", optional .float s.rating), ("total_products", optional .int s.totalProducts),
   ("verified", .bool s.verified), ("created_at", time s.createdAt)]

/-- The attributes of a product. -/
def product (p : Product) : Members :=
  [("product_id", .str p.productId), ("product_name", .str p.productName),
   ("category", .str p.category), ("price", .float p.price), ("status", .str p.status),
   ("brand_model", optional .str p.brandModel), ("sub_category", optional .str p.subCategory),
   ("stock_quantity", optional .int p.stockQuantity), ("rating", optional .float p.rating),
   ("review_count", optional .int p.reviewCount), ("tags", .arr (p.tags.map .str)),
   ("created_at", time p.createdAt)]

/-- The attributes of a listing. -/
def listing (l : Listing) : Members :=
  [("shop_product_id", .str l.shopProductId), ("shop_id", .str l.shopId),
   ("product_id", .str l.productId), ("product_name", .str l.productName),
   ("shop_name", .str l.shopName), ("category", .str l.category), ("price", .float l.price),
   ("shop_price", optional .float l.shopPrice),
   ("stock_quantity", optional .int l.stockQuantity), ("status", .str l.status),
   ("discount", optional .float l.discount), ("featured", .bool l.featured),
   ("created_at", time l.createdAt)]

/-- The attributes of an item of the order ledger. -/
def orderItem (o : OrderItem) : Members :=
  [("order_id", .str o.orderId), ("product_name", .str o.productName),
   ("brand_model", .str o.brandModel), ("buyer_name", .str o.buyerName),
   ("seller_name", .str o.sellerName), ("category", .str o.category),
   ("gathering_status", optional .str o.gatheringStatus),
   ("shipment_status", optional .str o.shipmentStatus),
   ("distribution_status", optional .str o.distributionStatus), ("price", .float o.price),
   ("quantity", .int o.quantity), ("timestamp", time o.timestamp)]

/-- The typed attributes of a record. -/
def record : Record → Members
  | .shop s => shop s
  | .product p => product p
  | .listing l => listing l
  | .order o => orderItem o
  | .generic => []

/-- What stands before the typed attributes of a hit. -/
def front (h : Hit) : Members :=
  [("object_id", .str h.objectId)]

/-- What stands behind the typed attributes of a hit. -/
def behind (h : Hit) : Members :=
  [("extra", .obj h.extra), ("kind", .str h.record.kind.name)]

/-- A hit. -/
def hit (h : Hit) : Json :=
  .obj (front h ++ record h.record ++ behind h)

/-- Hits. -/
def hits (hs : List Hit) : Json :=
  .arr (hs.map hit)

/-- A failure. -/
def failure (f : Failure) : Json :=
  .obj [("kind", .str f.kind.name), ("status_code", optional .int f.status),
    ("message", .str f.message)]

/-- A result. -/
def result (r : SearchResult) : Json :=
  .obj [("index", .str r.index), ("query", .str r.query), ("total_hits", .int r.totalHits),
    ("page", .int r.page), ("total_pages", .int r.totalPages),
    ("hits_per_page", .int r.hitsPerPage),
    ("processing_time_ms", optional .int r.processingTime), ("attempts", .int r.attempts),
    ("degraded", .bool r.degraded), ("error", optional failure r.failure), ("hits", hits r.hits)]

/-- The results of several indices. -/
def aggregate (a : Aggregate) : Json :=
  .obj [("total_hits", .int a.totalHits), ("failed", .arr (a.failed.map .ofString)),
    ("results", .obj (a.map fun (index, r) => (Phrase.ofString index, result r)))]

/-- The records found for some identifiers. -/
def lookup (index : String) (hs : List Hit) : Json :=
  .obj [("index", .str index), ("found", .int hs.length), ("hits", hits hs)]

/-- Totals. -/
def counts (c : DashboardCounts) : Json :=
  .obj [("total_shops", .int c.totalShops), ("active_shops", .int c.activeShops),
    ("total_products", .int c.totalProducts), ("active_products", .int c.activeProducts),
    ("total_shop_products", .int c.totalShopProducts),
    ("active_shop_products", .int c.activeShopProducts)]

/-- Whether the service answers. -/
def health (healthy : Bool) : Json :=
  .obj [("healthy", .bool healthy)]

end Bazaar.Render
