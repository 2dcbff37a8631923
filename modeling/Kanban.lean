import Kanban.Binary64.Bits
import Kanban.Json.Writer
import Kanban.Main
import Kanban.Proofs.Move.Boards
import Kanban.Proofs.Move.Commuting
import Kanban.Proofs.Move.Faults
import Kanban.Proofs.Move.GeneratedIds
import Kanban.Proofs.Move.Prediction
import Kanban.Proofs.Move.Repetition
import Kanban.Proofs.Move.Seniority
import Kanban.Proofs.Move.Serial
import Kanban.Proofs.Move.Spacing
import Kanban.Proofs.Ordering.Exact
import Kanban.Proofs.Ordering.Nearest
import Kanban.Proofs.Ordering.Renumbering
import Kanban.Proofs.Registry.Announcements
import Kanban.Proofs.Registry.CleanLint
import Kanban.Proofs.Registry.Headers
import Kanban.Proofs.Registry.Overtaken
import Kanban.Proofs.Registry.Reload
import Kanban.Proofs.Schema.EntitySpelling
import Kanban.Proofs.Schema.Naming
import Kanban.Proofs.Schema.SignatureForm
import Kanban.Proofs.Service.Housing
import Kanban.Proofs.Store.Listing
import Kanban.Proofs.Store.Swap
import Kanban.Settings.Environment
import Kanban.Settings.Logging
import Kanban.Store.Locks
import Kanban.Proofs.Schema.Resolution
import Kanban.Proofs.Schema.Linting
import Kanban.Proofs.Schema.Separators
import Kanban.Proofs.Schema.Formats
