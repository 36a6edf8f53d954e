import Bazaar.Service.Basic

/-!
# Presets

Searches for the views of the back office.  Each has its own filter, which takes the place of any
filter the caller brings, and gives the hits alone.
-/

namespace Bazaar.Service

/-- The views of the back office. -/
inductive Preset where
  | activeShops
  | verifiedShops
  | activeProducts
  | inStockProducts
  | productsByCategory (category : Value)
  | productsByShop (shopId : Value)
  | featuredProducts
  | inStockShopProducts
  | gatheringItems
  | distributionItems
  | deliveredItems
  | shopOrders (shopId : Value)
  | userOrders (userId : Value) (sold : Bool)
  | ordersByField (field : String) (value : Value)

/-- The page size of the order ledger. -/
def ledgerHitsPerPage : Int := 1000

/-- The page size of the orders of one shop or user. -/
def ownOrdersHitsPerPage : Int := 20

/-- Options with a page size if they have none. -/
def withPageSize (options : Option SearchOptions) (hitsPerPage : Int) : SearchOptions :=
  let o := options.getD {}
  { o with hitsPerPage := some (o.hitsPerPage.getD hitsPerPage) }

namespace Preset

/-- The filter entry of active records. -/
def active : Value × Value := (.str "status", .str "active")

/-- The filter entry of records in stock. -/
def inStock : Value × Value := (.str "inStock", .bool true)

/-- A filter entry with alternatives. -/
def anyOf (field : String) (values : List String) : Value × Value :=
  (.str field, .list (values.map .str))

/-- The index that holds the records of a view. -/
def index : Preset → String
  | activeShops | verifiedShops => "shops"
  | activeProducts | inStockProducts | productsByCategory _ => "products"
  | productsByShop _ | featuredProducts | inStockShopProducts => "shop_products"
  | _ => "orders"

/-- The filter of a view, given the one that the caller brings. -/
def filters (brought : Mapping) : Preset → Mapping
  | activeShops | activeProducts => [active]
  | verifiedShops => [active, (.str "verified", .bool true)]
  | inStockProducts | inStockShopProducts => [active, inStock]
  | productsByCategory category => [(.str "category", category), active]
  | productsByShop shopId => [(.str "shopId", shopId), active]
  | featuredProducts => [(.str "featured", .bool true), active]
  | gatheringItems => [anyOf "gatheringStatus" ["pending", "assigned"]]
  | distributionItems =>
    [(.str "allItemsGathered", .bool true), anyOf "distributionStatus" ["ready", "assigned"]]
  | deliveredItems => [(.str "distributionStatus", .str "delivered")]
  | shopOrders shopId => [(.str "shopId", shopId)]
  | userOrders userId sold => [(.str (if sold then "sellerId" else "buyerId"), userId)]
  | ordersByField field value => brought.insert (.str field) value

/-- The page size of a view, if it has one of its own. -/
def pageSize? : Preset → Option Int
  | gatheringItems | distributionItems | deliveredItems | ordersByField .. =>
    some ledgerHitsPerPage
  | shopOrders _ | userOrders .. => some ownOrdersHitsPerPage
  | _ => none

/-- The options of a view. -/
def options (p : Preset) (brought : Option SearchOptions) : SearchOptions :=
  let o :=
    match p.pageSize? with
    | some size => withPageSize brought size
    | none => brought.getD {}
  { o with filters := p.filters o.filters }

/-- The term of a view: searches by field have none. -/
def term (given : String) : Preset → String
  | ordersByField .. => ""
  | _ => given

end Preset

/-- The hits of a view. -/
def preset [Platform] (s : Service) (p : Preset) (term : String) (options : Option SearchOptions) :
    Plan (List Hit) :=
  (s.search p.index (p.term term) (some (p.options options))).map SearchResult.hits

end Bazaar.Service
