import Multimodal.Decimal.Fixed
import Multimodal.Linkage.Document
import Multimodal.Modification.Scripted
import Multimodal.Proofs.Digest.Content
import Multimodal.Proofs.Digest.Levels
import Multimodal.Proofs.Linkage.Nesting
import Multimodal.Proofs.Modification.Adjustments
import Multimodal.Proofs.Modification.AlteredStreets
import Multimodal.Proofs.Modification.NewStreets
import Multimodal.Proofs.Modification.Prediction
import Multimodal.Proofs.Modification.Removals
import Multimodal.Proofs.Modification.Service
import Multimodal.Proofs.Modification.SkippedStops
import Multimodal.Proofs.Modification.StopRemovals
import Multimodal.Proofs.Scenario.Cache
import Multimodal.Proofs.Scenario.Causes
import Multimodal.Proofs.Scenario.Document
import Multimodal.Proofs.Scenario.Feeds
import Multimodal.Proofs.Scenario.History
import Multimodal.Proofs.Scenario.Isolation
import Multimodal.Proofs.Scenario.Records
import Multimodal.Proofs.Scenario.Relinking
import Multimodal.Proofs.Scenario.Reordering
import Multimodal.Proofs.Scenario.WrittenOrder
import Multimodal.Proofs.Street.Record
import Multimodal.Proofs.Street.Views
import Multimodal.Proofs.Transit.Durations
import Multimodal.Proofs.Transit.Membership
import Multimodal.Sample
import Multimodal.Scenario.Cache
import Multimodal.Scenario.Config
import Multimodal.Scenario.Document
import Multimodal.Scenario.Held
import Multimodal.Proofs.Street.Counters
