import Messaging.Query
import Messaging.Scenario.Run
import Messaging.Proofs.Outcome
import Messaging.Proofs.Frame
import Messaging.Proofs.Lifetime
import Messaging.Proofs.Unwind
import Messaging.Proofs.Installation
import Messaging.Proofs.Send
import Messaging.Proofs.Signature
import Messaging.Proofs.Conservation
import Messaging.Proofs.Memory.Accounts
import Messaging.Proofs.Memory.Levels
import Messaging.Proofs.Memory.Pools
import Messaging.Proofs.Memory.WeakNames
import Messaging.Proofs.Memory.WeakRuns
import Messaging.Proofs.Class.Cache
import Messaging.Proofs.Class.Lookups
import Messaging.Proofs.Class.Resolution
import Messaging.Proofs.Reachable
import Messaging.Proofs.TypedCall.Reconciliation
import Messaging.Proofs.TypedCall.Symbols
import Messaging.Proofs.TypedCall.Allocation
import Messaging.Proofs.Guards.Runs
import Messaging.Proofs.Guards.Tiers
import Messaging.Proofs.Guards.AnyOrder
import Messaging.Proofs.Guards.RawPools
import Messaging.Proofs.Delivery.Runs
import Messaging.Proofs.Delivery.Posts
import Messaging.Proofs.Delivery.Events
import Messaging.Proofs.TypedCall.Construction
import Messaging.Proofs.TypedCall.Rejection
import Messaging.Proofs.Unwinding.Programs
import Messaging.Proofs.Unwinding.Raises
import Messaging.Proofs.Unwinding.Ledgers
import Messaging.Proofs.Unwinding.Frames
import Messaging.Proofs.Unwinding.Calls
import Messaging.Proofs.Unwinding.Ends
import Messaging.Proofs.Unwinding.Regions
import Messaging.Proofs.Log.Filters
import Messaging.Proofs.Log.Logger
import Messaging.Proofs.Class.Ancestors
import Messaging.Proofs.Class.Conformance
import Messaging.Proofs.Guards.RegionPools
import Messaging.Proofs.Guards.Stale
import Messaging.Proofs.Text.Pieces
import Messaging.Proofs.Log.Targets
import Messaging.Proofs.Log.Specs
import Messaging.Proofs.Guards.StackOfPools
import Messaging.Proofs.Delivery.Ports
import Messaging.Proofs.Class.Forest
import Messaging.Proofs.Class.Naming
import Messaging.Proofs.Class.Growth
import Messaging.Proofs.Class.Hierarchy
import Messaging.Proofs.Class.Attempts
import Messaging.Proofs.Interning
import Messaging.Proofs.TypedCall.Stranding
import Messaging.Proofs.Ensures
import Messaging.Proofs.Builtin.Tables
import Messaging.Proofs.Builtin.Contents
import Messaging.Proofs.Builtin.Routines
import Messaging.Proofs.Builtin.Programs
import Messaging.Proofs.Builtin.Samples
import Messaging.Proofs.Builtin.Equality
import Messaging.Proofs.Families
