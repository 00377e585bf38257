import NodeSupply.ByoNodes
import NodeSupply.Cluster.Remote
import NodeSupply.Describe
import NodeSupply.LogFormat
import NodeSupply.Wire.Config
import NodeSupply.Wire.ConfigFile
import NodeSupply.Wire.Readiness
import NodeSupply.Wire.Workload
import NodeSupply.World
import NodeSupply.Proofs.Binary64.WholeNumbers
import NodeSupply.Proofs.ByoNodes
import NodeSupply.Proofs.Json.Scalars
import NodeSupply.Proofs.Json.RoundTrip
import NodeSupply.Proofs.KeyMap
import NodeSupply.Proofs.Wire.Fields
import NodeSupply.Proofs.Wire.Lossless
import NodeSupply.Proofs.Program.Steps
import NodeSupply.Proofs.Cluster.Frame
import NodeSupply.Proofs.Cluster.Ownership
import NodeSupply.Proofs.Cluster.Store
import NodeSupply.Proofs.Orchestrator.Listing
import NodeSupply.Proofs.Orchestrator.Creation
import NodeSupply.Proofs.Orchestrator.Deletion
import NodeSupply.Proofs.Scaling.Bounds
import NodeSupply.Proofs.Scaling.Convergence
import NodeSupply.Proofs.Orchestrator.Labels
import NodeSupply.Proofs.Orchestrator.Waiting
import NodeSupply.Proofs.Orchestrator.Phases
import NodeSupply.Proofs.Orchestrator.PendingWaits
import NodeSupply.Proofs.Orchestrator.Sessions
import NodeSupply.Proofs.Orchestrator.Isolation
import NodeSupply.Proofs.Orchestrator.Resumption
import NodeSupply.Proofs.Orchestrator.Submission
import NodeSupply.Proofs.Orchestrator.NodeClasses
import NodeSupply.Proofs.Orchestrator.ProvisioningGate
import NodeSupply.Proofs.Orchestrator.Readiness
import NodeSupply.Proofs.Orchestrator.Bootstrap
import NodeSupply.Proofs.Sizing.NodeCount
import NodeSupply.Proofs.Sizing.ContextLength
import NodeSupply.Proofs.Sizing.Replicas
import NodeSupply.Proofs.Cluster.FailedCalls
import NodeSupply.Proofs.Concurrency.Interleaving
import NodeSupply.Proofs.Concurrency.Creations
import NodeSupply.Proofs.Concurrency.NodeClasses
import NodeSupply.Proofs.Sizing.WholeSizes
import NodeSupply.Proofs.Orchestrator.NameCollisions
import NodeSupply.Proofs.Scaling.Victims
import NodeSupply.Proofs.Program.Refusals
import NodeSupply.Proofs.Orchestrator.FailureClasses
import NodeSupply.Proofs.Backoff.Attempts
import NodeSupply.Proofs.ByoNodes.Selection
import NodeSupply.Proofs.Orchestrator.ListingAttempts
import NodeSupply.Proofs.Binary64.RoundingOrder
import NodeSupply.Proofs.Orchestrator.PendingClaims
import NodeSupply.Proofs.Sizing.SizeLimit
import NodeSupply.Proofs.Catalog
import NodeSupply.Proofs.FeatureGates
import NodeSupply.Proofs.Binary64.Nearness
import NodeSupply.Proofs.Sizing.SizeTexts
import NodeSupply.Proofs.Binary64.Monotonicity
import NodeSupply.Proofs.Sizing.PlanOrder
import NodeSupply.Proofs.Binary64.WholePowers
import NodeSupply.Proofs.Backoff.Delays
import NodeSupply.Proofs.Cluster.Bookkeeping
import NodeSupply.Proofs.Text.FormEncoding
import NodeSupply.Proofs.Selectors
import NodeSupply.Proofs.ClaimNames
