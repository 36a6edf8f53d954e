import Bazaar.Query.Filter
import Bazaar.Query.Percent

/-!
# Requests

What a caller asks for, the request that is built from it, and the text in which the request goes
to the search service: parameters joined by ampersands, both halves percent-encoded.
-/

namespace Bazaar

/-- The order that a caller asks for: none, a known one, or a word for one. -/
inductive SortRequest where
  | unspecified
  | key (k : SortKey)
  | word (s : String)
  deriving DecidableEq, Repr

namespace SortRequest

/-- The order that a value of unknown type asks for. -/
def ofValue [Platform] : Value → Except NumberFault SortRequest
  | .null => .ok .unspecified
  | .sortKey k => .ok (.key k)
  | v => v.write.map .word

/-- The known order that is asked for, if any. -/
def key? : SortRequest → Option SortKey
  | .unspecified => none
  | .key k => some k
  | .word s => SortKey.ofText? s

end SortRequest

/-- What a caller asks for in one search. -/
structure SearchOptions where
  hitsPerPage : Option Int := none
  page : Int := 0
  filters : Mapping := []
  attributes : List String := []
  sortBy : SortRequest := .unspecified
  deriving Inhabited

/-- A request for one page of one index. -/
structure Request where
  index : String
  term : String := ""
  filters : String := ""
  page : Int := 0
  hitsPerPage : Int := 100
  attributes : List String := []
  sortBy : SortRequest := .unspecified
  deriving DecidableEq, Repr

namespace Request

/-- The request for a term in an index with some options. -/
def build [Platform] (index term : String) (options : SearchOptions) (defaultHitsPerPage : Int) :
    Except NumberFault Request := do
  let filters ← Filter.compile options.filters
  return {
    index := index
    term := Text.trim term
    filters := filters
    page := options.page
    hitsPerPage := options.hitsPerPage.getD defaultHitsPerPage
    attributes := options.attributes
    sortBy := options.sortBy }

/-- One parameter: name and value encoded, with an equals sign between them. -/
def parameterChars (p : String × String) : List Char :=
  Percent.encodeChars p.1.toList ++ '=' :: Percent.encodeChars p.2.toList

/-- Parameters as one text. -/
def encodeParameters (ps : List (String × String)) : String :=
  String.ofList (Text.joinWith ['&'] (ps.map parameterChars))

variable [Platform]

/-- The names and values of the parameters, if the page and the page size are written.  An empty
filter and an empty projection are left out. -/
def parameters (r : Request) : Except NumberFault (List (String × String)) := do
  let page ← Platform.write r.page
  let hitsPerPage ← Platform.write r.hitsPerPage
  return [("query", r.term), ("page", page), ("hitsPerPage", hitsPerPage)] ++
    (if r.filters.isEmpty then [] else [("filters", r.filters)]) ++
    (if r.attributes.isEmpty then []
     else [("attributesToRetrieve", String.intercalate "," r.attributes)])

/-- The parameters of a request as one text. -/
def params (r : Request) : Except NumberFault String :=
  r.parameters.map encodeParameters

end Request

end Bazaar
