import Bazaar.Catalog
import Bazaar.Config.Section
import Bazaar.Text.Line

/-!
# Configuration

The settings of the program, read section by section from an untyped mapping and then checked.
All sections are read before the first one is checked, so a value of the wrong type is reported
before a value that breaks a rule; the retry section alone is checked as it is read.
-/

namespace Bazaar.Config

/-- How the program logs. -/
structure LogSettings where
  level : String
  toFile : Bool
  directory : Word
  deriving DecidableEq, Repr

/-- How the search service is reached.  The key itself comes from the environment. -/
structure Connection where
  appId : String
  keyVariable : Word
  key : String
  host : String
  deriving DecidableEq, Repr

/-- Page sizes, the quiet period of a search field, and the indices of combined searches. -/
structure SearchSettings where
  hitsPerPage : Int
  quietMillis : Int
  idChunkSize : Int
  fanOutIndices : List Word
  fanOutHitsPerPage : Int
  healthIndices : List Word
  deriving DecidableEq, Repr

/-- The quiet period in seconds. -/
def SearchSettings.quietPeriod (s : SearchSettings) : Except Overflow Float :=
  Number.divideInt s.quietMillis 1000

/-- All settings. -/
structure Settings where
  log : LogSettings
  connection : Connection
  retry : RetryPolicy
  search : SearchSettings
  catalog : Catalog

/-- Environment variables. -/
abbrev Environment := List (String × String)

/-- The levels at which the program may log. -/
def logLevels : List String := ["CRITICAL", "DEBUG", "ERROR", "INFO", "WARNING"]

/-- The words for the kinds of record, sorted. -/
def kindWords : List String := ["generic", "order", "product", "shop", "shop_product"]

/-- Reads how the program logs. -/
def readLog (root : Mapping) : Checked LogSettings := do
  let s ← section? root "log" true
  let level ← required s "level" "log.level" asText
  return {
    level := Text.upper level
    toFile := ← optional s "to_file" "log.to_file" false asFlag
    directory := ← optional s "dir" "log.dir" { value := "log" } asWord }

/-- Reads how the search service is reached. -/
def readConnection (env : Environment) (root : Mapping) : Checked Connection := do
  let s ← section? root "algolia" true
  let keyVariable ← required s "api_key_env" "algolia.api_key_env" asWord
  let appId ← optional s "app_id" "algolia.app_id" "" asText
  let host ← optional s "host" "algolia.host" "" asText
  return {
    appId := Text.trim appId
    keyVariable := keyVariable
    key := Text.trim ((env.lookup keyVariable.value).getD "")
    host := Text.trim host }

/-- Reads the time limits of the attempts; an explicit null stands for the default. -/
def readTimeouts (s : Mapping) : Checked (List Number) :=
  match s.get? "timeout_progression" with
  | none | some .null => .ok ({} : RetryPolicy).timeouts
  | some v => do
    let seconds ← asList asDouble "retry.timeout_progression" v
    return seconds.map .float

/-- Checks the retry settings in the words of the configuration. -/
def checkRetry (p : RetryPolicy) : Checked Unit := do
  let zero := RetryPolicy.zero
  ensure (0 < p.maxAttempts) "retry.max_attempts" .positive
  ensure (!p.delayFactor.below zero) "retry.delay_factor" .notNegative
  ensure (zero.atMost p.randomizationFactor && p.randomizationFactor.atMost (.int 1))
    "retry.randomization_factor" .unitRange
  ensure (!p.maxDelay.below p.delayFactor) "retry.max_delay" (.atLeast "retry.delay_factor")
  ensure (!p.timeouts.isEmpty) "retry.timeout_progression" .notEmpty
  ensure (!p.timeouts.any (·.atMost zero)) "retry.timeout_progression" .positiveValues

/-- Reads and checks the retry settings. -/
def readRetry (root : Mapping) : Checked RetryPolicy := do
  let s ← section? root "retry" false
  let timeouts ← readTimeouts s
  let maxAttempts ← optional s "max_attempts" "retry.max_attempts" 3 asInteger
  let delayFactor ← optional s "delay_factor" "retry.delay_factor" 0.5 asDouble
  let randomization ←
    optional s "randomization_factor" "retry.randomization_factor" 0.1 asDouble
  let maxDelay ← optional s "max_delay" "retry.max_delay" 2.0 asDouble
  let policy : RetryPolicy :=
    ⟨maxAttempts, .float delayFactor, .float randomization, .float maxDelay, timeouts⟩
  checkRetry policy
  policy.checked.mapError .retry

/-- Reads page sizes and the indices of combined searches. -/
def readSearch (root : Mapping) : Checked SearchSettings := do
  let s ← section? root "search" false
  let hitsPerPage ← optional s "hits_per_page" "search.hits_per_page" 100 asInteger
  let quietMillis ← optional s "debounce_ms" "search.debounce_ms" 300 asInteger
  let idChunkSize ← optional s "id_chunk_size" "search.id_chunk_size" 100 asInteger
  let fanOut ←
    optional s "fan_out_indices" "search.fan_out_indices"
      [{ value := "shops" }, { value := "products" }, { value := "shop_products" }]
      (asList asWord)
  let fanOutHitsPerPage ←
    optional s "fan_out_hits_per_page" "search.fan_out_hits_per_page" 20 asInteger
  let health ←
    optional s "health_indices" "search.health_indices"
      [{ value := "shop_products" }, { value := "orders" }] (asList asWord)
  return ⟨hitsPerPage, quietMillis, idChunkSize, fanOut, fanOutHitsPerPage, health⟩

/-- Reads what the settings of one index say. -/
def readSpec (logical : String) (body : Mapping) : Checked IndexSpec := do
  let key := "indices." ++ logical
  let name ← optional body "name" (key ++ ".name") logical asText
  let kind ← optional body "kind" (key ++ ".kind") "generic" asText
  let idField ← optional body "id_field" (key ++ ".id_field") "objectID" asText
  let sortable ← optional body "sortable" (key ++ ".sortable") true asFlag
  return ⟨Text.trim name, Text.lower (Text.trim kind), Text.trim idField, sortable⟩

/-- Reads what is known about one index; an entry without a value is empty. -/
def readIndex (logical : String) (entry : Value) : Checked IndexSpec := do
  let body ←
    match entry with
    | .null => pure []
    | v => asMapping ("indices." ++ logical) v
  readSpec logical body

section Indices

variable [Platform]

/-- Reads the entries of the index catalog after those read before. -/
def readIndices (catalog : Catalog) : Mapping → Checked Catalog
  | [] => .ok catalog
  | (key, entry) :: rest => do
    let logical ← key.write.mapError .number
    let spec ← readIndex logical entry
    readIndices (catalog.insert logical spec) rest

/-- Reads the index catalog. -/
def readCatalog (root : Mapping) : Checked Catalog := do
  readIndices [] (← section? root "indices" true)

end Indices

/-- Checks how the program logs. -/
def checkLog (s : LogSettings) : Checked Unit := do
  ensure (logLevels.contains s.level) "log.level" (.oneOf logLevels)
  ensure (!(s.toFile && (Text.trim s.directory.value).isEmpty)) "log.dir" .notEmpty

/-- Whether an address names a web protocol. -/
def isWebAddress (s : String) : Bool :=
  Text.startsWith "http://".toList s.toList || Text.startsWith "https://".toList s.toList

/-- Checks how the search service is reached. -/
def checkConnection (c : Connection) : Checked Unit := do
  ensure (!(Text.trim c.keyVariable.value).isEmpty) "algolia.api_key_env" .notEmpty
  ensure (c.host.isEmpty || isWebAddress c.host) "algolia.host" .webAddress

/-- Whether no text occurs twice. -/
def allDistinct : List String → Bool
  | [] => true
  | s :: rest => !rest.contains s && allDistinct rest

/-- Checks page sizes and the indices of combined searches. -/
def checkSearch (s : SearchSettings) : Checked Unit := do
  ensure (0 < s.hitsPerPage) "search.hits_per_page" .positive
  ensure (0 < s.fanOutHitsPerPage) "search.fan_out_hits_per_page" .positive
  ensure (0 ≤ s.quietMillis) "search.debounce_ms" .notNegative
  ensure (0 < s.idChunkSize) "search.id_chunk_size" .positive
  ensure (!s.fanOutIndices.isEmpty) "search.fan_out_indices" .notEmpty
  ensure (allDistinct (s.fanOutIndices.map Word.value)) "search.fan_out_indices" .noDuplicates
  ensure (!s.healthIndices.isEmpty) "search.health_indices" .notEmpty

/-- Checks what is known about one index. -/
def checkIndex (logical : String) (spec : IndexSpec) : Checked Unit := do
  let key := "indices." ++ logical
  ensure (!spec.name.isEmpty) (key ++ ".name") .notEmpty
  ensure (HitKind.ofName? spec.kind).isSome (key ++ ".kind") (.oneOf kindWords)
  ensure (!spec.idField.isEmpty) (key ++ ".id_field") .notEmpty

/-- Checks the entries of the catalog. -/
def checkIndices : Catalog → Checked Unit
  | [] => .ok ()
  | (logical, spec) :: rest => do
    checkIndex logical spec
    checkIndices rest

/-- Checks the catalog. -/
def checkCatalog (catalog : Catalog) : Checked Unit := do
  ensure (!catalog.isEmpty) "indices" .notEmpty
  checkIndices catalog

/-- Checks that indices are in the catalog. -/
def checkKnown (catalog : Catalog) (key : String) : List Word → Checked Unit
  | [] => .ok ()
  | name :: rest =>
    if (catalog.spec? name.value).isSome then checkKnown catalog key rest
    else .error (.unknownIndex key name.label)

section Whole

variable [Platform]

/-- Reads the sections behind the retry settings and checks all others. -/
def readBehindRetry (root : Mapping) (log : LogSettings) (connection : Connection)
    (retry : RetryPolicy) : Checked Settings := do
  let search ← readSearch root
  let catalog ← readCatalog root
  checkLog log
  checkConnection connection
  checkSearch search
  checkCatalog catalog
  checkKnown catalog "search.fan_out_indices" search.fanOutIndices
  checkKnown catalog "search.health_indices" search.healthIndices
  return ⟨log, connection, retry, search, catalog⟩

/-- Reads and checks a configuration. -/
def read (env : Environment) (root : Mapping) : Checked Settings := do
  let log ← readLog root
  let connection ← readConnection env root
  let retry ← readRetry root
  readBehindRetry root log connection retry

end Whole

/-- The credentials for the search service: application and key. -/
def Connection.credentials (c : Connection) : Checked (String × String) :=
  if c.appId.isEmpty then .error (.missing "algolia.app_id")
  else if c.key.isEmpty then .error (.noCredential c.keyVariable.label)
  else .ok (c.appId, c.key)

end Bazaar.Config
