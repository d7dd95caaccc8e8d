import FreezeAuthority.Lib.Window
import FreezeAuthority.Lib.Machine
import FreezeAuthority.Lib.Distinct
import FreezeAuthority.Lib.Loop
import FreezeAuthority.Code.Ledger
import FreezeAuthority.Code.Macros
import FreezeAuthority.Spec.Crates
import FreezeAuthority.Spec.Layout
import FreezeAuthority.Spec.Functions
import FreezeAuthority.Spec.Model
import FreezeAuthority.Spec.Runs
import FreezeAuthority.Spec.Reference
import FreezeAuthority.Spec.Macros
import FreezeAuthority.Properties.History
import FreezeAuthority.Properties.Authorization
import FreezeAuthority.Properties.Independence
import FreezeAuthority.Properties.Embedding
import FreezeAuthority.Properties.WellFormed
import FreezeAuthority.Properties.Recovery
import FreezeAuthority.Properties.Markers
import FreezeAuthority.Properties.PostStates
import FreezeAuthority.Properties.Format
import FreezeAuthority.Properties.Windows
import FreezeAuthority.Properties.Atomicity
import FreezeAuthority.Properties.DualPath
import FreezeAuthority.Properties.MarkerBlind
import FreezeAuthority.Properties.Uninitialized
import FreezeAuthority.Properties.SharedAccounts
import FreezeAuthority.Properties.Attribute
import FreezeAuthority.Properties.Gate
import FreezeAuthority.Code.Sequencer
import FreezeAuthority.Spec.Sequencer
import FreezeAuthority.Properties.Landing
import FreezeAuthority.Properties.Chain
import FreezeAuthority.Lib.Codec
import FreezeAuthority.Code.Samples
import FreezeAuthority.Spec.Samples
import FreezeAuthority.Properties.Hosts
import FreezeAuthority.Properties.EmbeddedSample
import FreezeAuthority.Properties.DedicatedSamples
import FreezeAuthority.Properties.AttributeOrder
import FreezeAuthority.Properties.Layouts
import FreezeAuthority.Lib.Footprint
import FreezeAuthority.Properties.Ordering
import FreezeAuthority.Properties.Reach
import FreezeAuthority.Properties.Observation
import FreezeAuthority.Properties.Initialization
import FreezeAuthority.Properties.Opening
import FreezeAuthority.Properties.Neighbours
