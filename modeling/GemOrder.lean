import GemOrder.Main
import GemOrder.Proofs.Lines
import GemOrder.Proofs.Classes
import GemOrder.Proofs.Segments
import GemOrder.Proofs.Layout
import GemOrder.Proofs.Relocation
import GemOrder.Proofs.Names
import GemOrder.Proofs.Progress
import GemOrder.Proofs.Structure
import GemOrder.Proofs.Unseen
import GemOrder.Proofs.Blocks
import GemOrder.Proofs.Rereading
import GemOrder.Proofs.Idempotence
import GemOrder.Proofs.Passes
import GemOrder.Proofs.Grammar
import GemOrder.Proofs.Windows
import GemOrder.Proofs.Bodies
import GemOrder.Proofs.Sections
import GemOrder.Proofs.SecondPass
import GemOrder.Proofs.Endings
import GemOrder.Proofs.Places
import GemOrder.Proofs.Modes
import GemOrder.Proofs.Workers
import GemOrder.Proofs.Paths
import GemOrder.Proofs.Routes
import GemOrder.Proofs.Collection
import GemOrder.Proofs.Discovery
import GemOrder.Proofs.MissingInputs
import GemOrder.Proofs.Spellings
import GemOrder.Proofs.Matching
import GemOrder.Proofs.Reads
import GemOrder.Proofs.Extents
import GemOrder.Proofs.Formation
import GemOrder.Proofs.Hooks
import GemOrder.Proofs.BareRuns
import GemOrder.Proofs.Bounds
import GemOrder.Proofs.Stability
import GemOrder.Proofs.Rendering
import GemOrder.Proofs.Ownership
import GemOrder.Proofs.Bundles
import GemOrder.Proofs.Declarations
import GemOrder.Proofs.Statements
import GemOrder.Proofs.Merging
import GemOrder.Proofs.Splitting
