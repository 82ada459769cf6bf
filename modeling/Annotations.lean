import Annotations.Config.Loader
import Annotations.Engine
import Annotations.SchemaDecl
import Annotations.Search.Recorder
import Annotations.Vocabulary.Records
import Annotations.Vocabulary.Web
import Annotations.Wire.Declaration
import Annotations.Wire.Settings
import Annotations.Wire.Value
import Annotations.Proofs.Action.Closed
import Annotations.Proofs.Alias.Recall
import Annotations.Proofs.Alias.Synthesizable
import Annotations.Proofs.Merge.Questions
import Annotations.Proofs.Action.Coupled
import Annotations.Proofs.Search.Lookup
import Annotations.Proofs.Search.Parallel
import Annotations.Proofs.Search.Coupling
import Annotations.Engine.Calls
import Annotations.Proofs.Engine.Alike
import Annotations.Proofs.Engine.Kept
import Annotations.Proofs.Engine.Calls
import Annotations.Proofs.Engine.CacheTransparency
import Annotations.Proofs.Alias.Chain
import Annotations.Proofs.Alias.Groups
import Annotations.Proofs.Value.Same
import Annotations.Proofs.Action.Yields
import Annotations.Proofs.Merge.Share
import Annotations.Proofs.Merge.Slots
import Annotations.Proofs.Merge.Fitting
import Annotations.Proofs.Merge.Congruence
import Annotations.Proofs.Engine.Trails
import Annotations.Proofs.Merge.Overlay
import Annotations.Proofs.Engine.AliasConsistency
import Annotations.Proofs.Graph.Reachability
import Annotations.Proofs.Alias.Symmetry
import Annotations.Proofs.Merge.Aliases
import Annotations.Proofs.Merge.Direction
import Annotations.Proofs.Engine.OverrideDirection
import Annotations.Proofs.Action.Endings
import Annotations.Proofs.Alias.Faults
import Annotations.Proofs.Merge.Clashes
import Annotations.Proofs.Merge.Conflicts
import Annotations.Proofs.Merge.Rivals
import Annotations.Proofs.Engine.Conflicts
import Annotations.Proofs.Engine.MethodPresence
import Annotations.Proofs.Engine.Presence
import Annotations.Proofs.Graph.Hierarchy
import Annotations.Proofs.Search.Routes
import Annotations.Proofs.Search.Sweep
import Annotations.Proofs.Search.Chains
import Annotations.Proofs.Engine.Reachability
import Annotations.Proofs.Graph.Reordered
import Annotations.Proofs.Search.Detours
import Annotations.Proofs.Engine.DepthLimit
import Annotations.Proofs.Graph.FirstMatch
import Annotations.Proofs.Graph.Methods
import Annotations.Proofs.Graph.Pruned
import Annotations.Proofs.Graph.Sheltered
import Annotations.Proofs.Search.Pruning
import Annotations.Proofs.Engine.Isolation
import Annotations.Proofs.Alias.Pairs
import Annotations.Proofs.Alias.Implicit
import Annotations.Proofs.Merge.Held
import Annotations.Proofs.Merge.Agreement
import Annotations.Proofs.Engine.Agreement
import Annotations.Proofs.Value.Shape
import Annotations.Proofs.Merge.Whole
import Annotations.Proofs.Merge.Rereading
import Annotations.Proofs.Merge.Drawn
import Annotations.Proofs.Engine.RoundTrip
import Annotations.Proofs.Alias.Unknown
import Annotations.Proofs.Engine.Introspection
import Annotations.Alias.Queries
import Annotations.Proofs.Alias.Answers
import Annotations.Proofs.Alias.Walk
import Annotations.Proofs.Alias.Loopless
import Annotations.Proofs.Alias.Loops
import Annotations.Proofs.Alias.History
import Annotations.Proofs.Action.Paired
import Annotations.Proofs.Value.Twins
import Annotations.Proofs.Merge.Twins
import Annotations.Proofs.Alias.Replays
import Annotations.Proofs.Merge.Backings
import Annotations.View.Resolved
import Annotations.Proofs.Merge.Together
import Annotations.Proofs.Search.Filled
import Annotations.Proofs.Search.Ledger
import Annotations.Engine.Requests
import Annotations.Proofs.Metrics.Tally
import Annotations.Proofs.Engine.Asides
import Annotations.Proofs.Engine.Accounts
import Annotations.Proofs.Value.Hashing
import Annotations.Proofs.View.Equality
import Annotations.Proofs.Action.Matched
import Annotations.Proofs.Value.Dress
import Annotations.Proofs.Merge.Filled
import Annotations.Proofs.Merge.Formed
import Annotations.Proofs.Merge.Shows
import Annotations.Proofs.Merge.Resolvers
import Annotations.Proofs.Merge.Renderings
import Annotations.Proofs.Merge.PendingShown
import Annotations.Proofs.Merge.StoreShown
import Annotations.Proofs.Search.InStep
import Annotations.Proofs.Engine.Rendering
import Annotations.Proofs.Engine.InterfacePresence
import Annotations.Proofs.View.Nesting
import Annotations.Proofs.View.Typing
import Annotations.Proofs.View.Materialized
import Annotations.Proofs.Engine.Layout
import Annotations.Proofs.Engine.Collected
import Annotations.Proofs.Config.Layering
import Annotations.Proofs.Engine.Completeness
import Annotations.Proofs.Graph.Inheritance
import Annotations.Proofs.Graph.Barren
import Annotations.Proofs.Search.Gathering
import Annotations.Proofs.Search.Unfiltered
import Annotations.Proofs.Engine.MetaTypes
import Annotations.Proofs.Engine.InterfaceFilter
import Annotations.Proofs.View.Plain
import Annotations.Proofs.Alias.Composition
import Annotations.Proofs.Merge.Classes
import Annotations.Proofs.Search.Locality
import Annotations.Proofs.Engine.Locality
import Annotations.Proofs.Typed.RoundTrip
import Annotations.Proofs.Typed.Declared
import Annotations.Proofs.Engine.TypedReads
import Annotations.Proofs.Config.Independence
