import ScopedBinding.Script.Run
import ScopedBinding.Proofs.Lifo
import ScopedBinding.Proofs.Restoration
import ScopedBinding.Proofs.LeakingBody
import ScopedBinding.Proofs.GuardStates
import ScopedBinding.Proofs.Nesting
import ScopedBinding.Proofs.DynamicScopes
import ScopedBinding.Proofs.Conveyance
import ScopedBinding.Proofs.Changes
import ScopedBinding.Proofs.History
import ScopedBinding.Proofs.Renaming
import ScopedBinding.Proofs.Views
import ScopedBinding.Proofs.Amid
import ScopedBinding.Proofs.Routine
import ScopedBinding.Proofs.Mirrors
import ScopedBinding.Proofs.MirroredOperations
import ScopedBinding.Proofs.MirroredRoutines
import ScopedBinding.Proofs.Isolation
import ScopedBinding.Proofs.Reachable
import ScopedBinding.Proofs.Ordering
import ScopedBinding.Proofs.Declarations
import ScopedBinding.Proofs.Permanence
import ScopedBinding.Proofs.Scenes
import ScopedBinding.Proofs.Ownership
import ScopedBinding.Proofs.Blocking
import ScopedBinding.Proofs.Precedence
import ScopedBinding.Proofs.Entry
import ScopedBinding.Proofs.Commitment
import ScopedBinding.Proofs.Lifecycle
import ScopedBinding.Proofs.Composition
import ScopedBinding.Proofs.UnnoticedScopes
import ScopedBinding.Proofs.NamedOverrides
import ScopedBinding.Proofs.Configuration
import ScopedBinding.Proofs.Deciding
import ScopedBinding.Proofs.Registry
import ScopedBinding.Proofs.Reentrancy
import ScopedBinding.Proofs.Alterations
import ScopedBinding.Proofs.Ledgers
import ScopedBinding.Proofs.LostUpdates
import ScopedBinding.Proofs.Numbering
import ScopedBinding.Proofs.Encoding
import ScopedBinding.Proofs.PolicyWords
import ScopedBinding.Proofs.QuotedText
import ScopedBinding.Proofs.Rounding
import ScopedBinding.Proofs.ShortestDecimal
import ScopedBinding.Proofs.NumberText
import ScopedBinding.Proofs.DistinctText
import ScopedBinding.Proofs.FrameAccounts
import ScopedBinding.Proofs.GuardReports
import ScopedBinding.Proofs.Junctures
import ScopedBinding.Proofs.Tracking
import ScopedBinding.Proofs.Reconstruction
