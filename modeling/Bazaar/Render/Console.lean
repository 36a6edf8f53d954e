import Bazaar.Decimal.Fixed
import Bazaar.Log
import Bazaar.Result.Basic
import Bazaar.Text.Line
import Bazaar.Text.Order

/-!
# Results as text

Numbered blocks of lines for the records, and a line of summary for each result.  Halves of
characters are shown by their numbers.
-/

namespace Bazaar.Render

/-- A date, or a dash. -/
def dateText (t : Option Calendar.DateTime) : String :=
  match t with
  | some t => t.date.short
  | none => "-"

/-- A price with two places and commas, or a dash. -/
def priceText (x : Option Float) : String :=
  match x with
  | some x => Decimal.fixed 2 true x
  | none => "-"

/-- A text, or another one when it is empty. -/
def orElse (s other : Phrase) : String :=
  if s.isEmpty then other.shown else s.shown

/-- A text, or a dash when it is missing or empty. -/
def orDash (s : Option Phrase) : String :=
  orElse (s.getD []) "-"

/-- A number, or a dash. -/
def numberOrDash (n : Option Int) : String :=
  (n.map toString).getD "-"

/-- The lines of a shop. -/
def shopLines (s : Shop) : List String :=
  [orElse s.shopName s.shopId ++ (if s.verified then " [verified]" else ""),
   "   Shop: " ++ s.shopId.shown ++ "  Status: " ++ orElse s.status "-"] ++
  (if s.ownerName.isEmpty then [] else ["   Owner: " ++ s.ownerName.shown]) ++
  (if s.category.isNone && s.city.isNone then []
   else ["   Category: " ++ orDash s.category ++ "  City: " ++ orDash s.city]) ++
  ["   Created: " ++ dateText s.createdAt]

/-- The lines of a product. -/
def productLines (p : Product) : List String :=
  [orElse p.productName p.productId,
   "   Product: " ++ p.productId.shown ++ "  Status: " ++ orElse p.status "-",
   "   Category: " ++ orElse p.category "-" ++ "  Price: " ++ priceText (some p.price)] ++
  (match p.stockQuantity with
   | some n => ["   Stock: " ++ toString n]
   | none => []) ++
  (if p.tags.isEmpty then [] else ["   Tags: " ++ String.intercalate ", " (p.tags.map Phrase.shown)])

/-- The lines of a listing. -/
def listingLines (l : Listing) : List String :=
  [orElse l.productName l.shopProductId ++ (if l.featured then " [featured]" else ""),
   "   Listing: " ++ l.shopProductId.shown ++ "  Shop: " ++ orElse l.shopName l.shopId,
   "   Price: " ++ priceText (some l.price) ++ "  Shop price: " ++ priceText l.shopPrice ++
     "  Stock: " ++ numberOrDash l.stockQuantity]

/-- The lines of an item of the order ledger. -/
def orderLines (o : OrderItem) : List String :=
  [orElse o.productName o.orderId ++ " x" ++ toString o.quantity,
   "   Order: " ++ o.orderId.shown ++ "  Buyer: " ++ orElse o.buyerName "-" ++ "  Seller: " ++
     orElse o.sellerName "-",
   "   Gathering: " ++ orDash o.gatheringStatus ++ "  Distribution: " ++
     orDash o.distributionStatus ++ "  Shipment: " ++ orDash o.shipmentStatus,
   "   Placed: " ++ dateText o.timestamp]

/-- The lines of a record without a type of its own. -/
def genericLines (h : Hit) : List String :=
  [h.objectId.shown,
   "   Attributes: " ++
     orElse (String.intercalate ", " ((Phrase.sorted h.extra.names).map Phrase.shown)) "-"]

/-- The lines of a hit. -/
def hitLines (h : Hit) : List String :=
  match h.record with
  | .shop s => shopLines s
  | .product p => productLines p
  | .listing l => listingLines l
  | .order o => orderLines o
  | .generic => genericLines h

/-- The blocks of hits, numbered from a number on, each followed by an empty line. -/
def blocks (number : Nat) : List Hit → List String
  | [] => []
  | h :: hs =>
    (match hitLines h with
     | [] => []
     | first :: rest => (toString number ++ ". " ++ first) :: rest) ++
    [""] ++ blocks (number + 1) hs

/-- Hits as a block of text; the text ends with one line break. -/
def text (hs : List Hit) : String :=
  Text.trimRight (String.intercalate "\n" (blocks 1 hs)) ++ "\n"

/-- One line about a result. -/
def summary (r : SearchResult) : String :=
  match r.failure with
  | some f =>
    "index=" ++ r.index ++ " degraded after " ++ toString r.attempts ++ " attempt(s): " ++ f.text
  | none =>
    "index=" ++ r.index ++ " hits=" ++ toString r.hits.length ++ "/" ++ toString r.totalHits ++
      " page=" ++ toString (r.page + 1) ++ "/" ++ toString (max r.totalPages 1)

/-- The lines of a text as log entries. -/
def textEntries (s : String) : List LogEntry :=
  (Text.lines s).map (⟨.info, ·⟩)

/-- A result as log entries. -/
def resultEntries (r : SearchResult) : List LogEntry :=
  if r.degraded then [⟨.warning, summary r⟩]
  else ⟨.info, summary r⟩ :: textEntries (text r.hits)

/-- The results of several indices as log entries, each under a heading. -/
def aggregateEntries (a : Aggregate) : List LogEntry :=
  a.flatMap fun (index, r) => ⟨.info, "=== " ++ index ++ " ==="⟩ :: resultEntries r

/-- The records found for some identifiers as log entries. -/
def lookupEntries (index : String) (hs : List Hit) : List LogEntry :=
  ⟨.info, "index=" ++ index ++ " found=" ++ toString hs.length⟩ :: textEntries (text hs)

/-- A row of the table of totals. -/
def countsRow (label active total : String) : LogEntry :=
  ⟨.info, Text.padRight 14 label ++ " " ++ Text.padLeft 8 active ++ " " ++ Text.padLeft 8 total⟩

/-- Totals as log entries: a table with a heading. -/
def countsEntries (c : DashboardCounts) : List LogEntry :=
  [countsRow "" "active" "total",
   countsRow "Shops" (toString c.activeShops) (toString c.totalShops),
   countsRow "Products" (toString c.activeProducts) (toString c.totalProducts),
   countsRow "Shop products" (toString c.activeShopProducts) (toString c.totalShopProducts)]

/-- Whether the service answers, as log entries. -/
def healthEntries (healthy : Bool) : List LogEntry :=
  if healthy then [⟨.info, "Search service reachable"⟩]
  else [⟨.warning, "Search service unreachable"⟩]

end Bazaar.Render
