import Bazaar.Config.Basic
import Bazaar.Disk
import Bazaar.Yaml.Value

/-!
# Configuration files

Finds, reads and merges configuration files: the default file, and over it the file that the user
names, unless that is the default file itself.
-/

namespace Bazaar.Config

/-- Why no configuration could be loaded. -/
inductive LoadFault where
  | file (fault : Disk.Fault)
  | yaml (fault : Yaml.Fault)
  | config (fault : Fault)
  deriving DecidableEq, Repr

/-- The wording of a load fault. -/
def LoadFault.message : LoadFault → String
  | .file fault => fault.message
  | .yaml fault => fault.message
  | .config fault => fault.message

/-- The class of a load fault. -/
def LoadFault.kind : LoadFault → FaultClass
  | .file fault => fault.kind
  | .yaml fault => fault.kind
  | .config fault => fault.kind

section

variable [Platform]

/-- The root mapping of a YAML text; a text that says nothing has an empty one. -/
def rootOfText (s : String) : Except LoadFault Mapping :=
  match Yaml.read s with
  | .error fault => .error (.yaml fault)
  | .ok v =>
    if !v.isTrue then .ok []
    else
      match v with
      | .map entries => .ok entries
      | _ => .error (.config .rootNotMapping)

/-- The root mapping of a file. -/
def rootOfFile (disk : Disk) (path : Path) : Except LoadFault Mapping := do
  let content ← (disk.read path).mapError .file
  rootOfText content

/-- The configuration of a file laid over the default file. -/
def load (disk : Disk) (env : Environment) (path default : Path) :
    Except LoadFault Settings := do
  let base ← rootOfFile disk default
  let root ←
    if path = default then pure base
    else do
      let upper ← rootOfFile disk path
      pure (base.merge upper)
  (read env root).mapError .config

end

/-- Where the default file lies. -/
def defaultPath : Path := ⟨0, ["config", "default.yml"]⟩

/-- The default file as it is shipped. -/
def defaultText : String :=
"# Settings that hold unless another file overrides them.

log:
  level: INFO
  to_file: false
  dir: log

algolia:
  app_id: \"\"
  # Name of the environment variable holding the search-only API key.
  api_key_env: ALGOLIA_SEARCH_API_KEY
  # Empty means the host of the application.
  host: \"\"

retry:
  max_attempts: 3
  delay_factor: 0.5
  randomization_factor: 0.1
  max_delay: 2.0
  timeout_progression: [3.0, 5.0, 8.0]

search:
  hits_per_page: 100
  debounce_ms: 300
  id_chunk_size: 100
  fan_out_indices: [shops, products, shop_products]
  fan_out_hits_per_page: 20
  # Indices that have to answer for the service to be healthy.
  health_indices: [shop_products, orders]

indices:
  shops:
    kind: shop
    id_field: shopId
  products:
    kind: product
    id_field: productId
  shop_products:
    kind: shop_product
    id_field: shopProductId
    sortable: false
  orders:
    kind: order
    id_field: objectID
"

end Bazaar.Config
