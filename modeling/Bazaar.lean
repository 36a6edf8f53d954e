import Bazaar.Main
import Bazaar.Service.Preset
import Bazaar.Proofs.Calendar.Civil
import Bazaar.Proofs.Calendar.Epoch
import Bazaar.Proofs.Calendar.Iso
import Bazaar.Proofs.Coalescer.Deliveries
import Bazaar.Proofs.Command.FilterArgument
import Bazaar.Proofs.Command.Lookup
import Bazaar.Proofs.Decimal.Spelling
import Bazaar.Proofs.Decimal.Whole
import Bazaar.Proofs.Engine.Attempts
import Bazaar.Proofs.Engine.Body
import Bazaar.Proofs.Engine.Status
import Bazaar.Proofs.Engine.Together
import Bazaar.Proofs.Filter.Compile
import Bazaar.Proofs.Filter.Identifier
import Bazaar.Proofs.Query.Parameters
import Bazaar.Proofs.Service.FanOut
import Bazaar.Proofs.Service.Lookup
import Bazaar.Proofs.Service.Records
import Bazaar.Proofs.Service.Setup
import Bazaar.Proofs.Simulation.Field
import Bazaar.Proofs.Simulation.Parts
import Bazaar.Proofs.Simulation.Plan
import Bazaar.Proofs.Timestamp
import Bazaar.Proofs.Decimal.Equal
import Bazaar.Proofs.Keyed
import Bazaar.Proofs.Value.Key
import Bazaar.Proofs.Config.Faults
import Bazaar.Proofs.Config.Merge
import Bazaar.Proofs.Hit.Schema
import Bazaar.Proofs.Hit.Attributes
import Bazaar.Proofs.Decimal.Nearest
import Bazaar.Proofs.Decimal.Shortest
import Bazaar.Proofs.Json.Number
import Bazaar.Proofs.Json.Plain
import Bazaar.Proofs.Json.Document
import Bazaar.Proofs.Render.Document
import Bazaar.Proofs.Render.Writer
import Bazaar.Proofs.Decimal.Order
import Bazaar.Proofs.Config.Retry
import Bazaar.Proofs.Engine.Backoff
import Bazaar.Proofs.Filter.Malformed
import Bazaar.Proofs.Decimal.Product
import Bazaar.Proofs.Calendar.Instant
import Bazaar.Proofs.Timestamp.Offset
import Bazaar.Proofs.Failure.Walk
import Bazaar.Proofs.Filter.Enumeration
import Bazaar.Proofs.Command.Run
import Bazaar.Platform.Usual
