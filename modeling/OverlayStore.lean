import OverlayStore.Bytes
import OverlayStore.Blake3
import OverlayStore.Json
import OverlayStore.Contact.Json
import OverlayStore.Text.Utf8
import OverlayStore.Text.Blank
import OverlayStore.Text.LetterCase
import OverlayStore.Number.Text
import OverlayStore.Text.Alphanumeric
import OverlayStore.Duration
import OverlayStore.Log.Config
import OverlayStore.Config.Environment
import OverlayStore.Config.Text
import OverlayStore.Error
import OverlayStore.Value.Factory
import OverlayStore.Database
import OverlayStore.Routing
import OverlayStore.Expiry
import OverlayStore.Sweep
import OverlayStore.Publication
import OverlayStore.Catalogue
import OverlayStore.Schedule
import OverlayStore.Scheduler
import OverlayStore.Publisher
import OverlayStore.Network
import OverlayStore.Network.Scripted
import OverlayStore.Network.Loopback
import OverlayStore.Node
import OverlayStore.Node.Run
import OverlayStore.Node.Control
import OverlayStore.Demo
import OverlayStore.Patience
import OverlayStore.Catalogue.Scripted
import OverlayStore.Node.Answer
import OverlayStore.View
import OverlayStore.CommandLine
import OverlayStore.CommandLine.Help
import OverlayStore.Files
import OverlayStore.Program
import OverlayStore.Main
import OverlayStore.Proofs.Table
import OverlayStore.Proofs.Database.Refinement
import OverlayStore.Proofs.Database.FloodLimits
import OverlayStore.Proofs.Publisher.Sequence
import OverlayStore.Proofs.Database.CreatorValidation
import OverlayStore.Proofs.Metrics
import OverlayStore.Proofs.Publisher.Stamps
import OverlayStore.Proofs.Publisher.Notices
import OverlayStore.Proofs.Database.Succession
import OverlayStore.Proofs.Database.Renewal
import OverlayStore.Proofs.Value.Interning
import OverlayStore.Proofs.Value.Framing
import OverlayStore.Proofs.Database.BagSize
import OverlayStore.Proofs.Database.Upkeep
import OverlayStore.Proofs.Database.Isolation
import OverlayStore.Proofs.Demo.Report
import OverlayStore.Proofs.Database.FloodCheck
import OverlayStore.Proofs.Database.RequestLoad
import OverlayStore.Proofs.Network.Closest
import OverlayStore.Proofs.Lifetime
import OverlayStore.Proofs.Value.Naming
import OverlayStore.Proofs.Catalogue
import OverlayStore.Proofs.Value.Dispatch
import OverlayStore.Proofs.Database.Figures
import OverlayStore.Proofs.Node.Starting
import OverlayStore.Proofs.Publisher.Passage
import OverlayStore.Proofs.Config.Environment
import OverlayStore.Proofs.Key.Metric
