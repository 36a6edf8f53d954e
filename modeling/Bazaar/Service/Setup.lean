import Bazaar.Config.Basic
import Bazaar.Engine
import Bazaar.Service.Basic

/-!
# Setting a service up

The engine and the service that a configuration describes.  Credentials are needed only here, so a
configuration without them can still be read.
-/

namespace Bazaar

/-- The engine as a backend. -/
def Engine.backend [Platform] (e : Engine) : Backend where
  name := "algolia"
  execute := e.execute
  isReachable := e.isReachable

/-- The refusal of a configuration. -/
def Config.Fault.refusal (fault : Config.Fault) : Refusal :=
  ⟨fault.kind, fault.message⟩

/-- The engine and the service of a configuration. -/
def Config.Settings.setUp (s : Settings) : Except Refusal (Engine × Service) := do
  let (appId, key) ← s.connection.credentials.mapError Fault.refusal
  let client ← (Client.create appId key (some s.connection.host)).mapError Bazaar.Fault.refusal
  let quietPeriod ← s.search.quietPeriod.mapError fun o => Fault.refusal (.number (.overflow o))
  return (
    { client := client, policy := s.retry, catalog := s.catalog },
    { catalog := s.catalog
      hitsPerPage := s.search.hitsPerPage
      fanOutIndices := s.search.fanOutIndices.map Config.Word.value
      healthIndices := s.search.healthIndices.map Config.Word.value
      fanOutHitsPerPage := s.search.fanOutHitsPerPage
      idChunkSize := s.search.idChunkSize
      quietPeriod := .float quietPeriod })

end Bazaar
