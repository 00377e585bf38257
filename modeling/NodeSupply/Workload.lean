import NodeSupply.Catalog.BuiltIn
import NodeSupply.Labels
import NodeSupply.Sizing.ContextLength
import NodeSupply.Sizing.NodeCount

/-!
Workloads and what they ask of the provisioner.
-/

namespace NodeSupply

structure WorkloadRef where
  name : String
  nameSpace : String
deriving DecidableEq

namespace WorkloadRef

/-- The labels of every claim that the workload owns. -/
def ownerLabels (w : WorkloadRef) : LabelSet :=
  .ofList [(Label.workloadName, w.name), (Label.workloadNamespace, w.nameSpace)]

def text (w : WorkloadRef) : String := w.nameSpace ++ "/" ++ w.name

end WorkloadRef

structure NodeRequest where
  owner : WorkloadRef
  instanceType : String
  /-- The node count that the user asked for. -/
  requestedNodeCount : Option UInt32 := none
  /-- The nodes that work together on one replica of the model. -/
  nodesPerReplica : UInt32 := 1
  /-- The labels that reused nodes must carry, and that claims are given. -/
  labelSelector : LabelSet := .empty
  /-- The only nodes to reuse, in this order; all if empty. -/
  preferredNodeNames : List String := []
  hasProfile : Bool := false
  profile : Option ModelProfile := none
  /-- The node count computed before and kept in the workload's status. -/
  targetNodeCount : Option UInt32 := none
  /-- The storage of each node. -/
  storageRequirement : Option String := none
deriving DecidableEq

/-- The node count and context length that a request comes to; zero stands for no context length. -/
structure SizingPlan where
  nodeCount : UInt32
  maxModelLen : UInt32
deriving DecidableEq

namespace NodeRequest

def new (owner : WorkloadRef) (instanceType : String) : NodeRequest := { owner, instanceType }

def withLabelSelector (r : NodeRequest) (selector : LabelSet) : NodeRequest :=
  { r with labelSelector := selector }

def withPreferredNodes (r : NodeRequest) (names : List String) : NodeRequest :=
  { r with preferredNodeNames := names }

/-- Records a target; the workload counts as profiled from then on. -/
def withTargetNodeCount (r : NodeRequest) (target : UInt32) : NodeRequest :=
  { r with hasProfile := true, targetNodeCount := some target }

def withRequestedNodeCount (r : NodeRequest) (count : UInt32) : NodeRequest :=
  { r with requestedNodeCount := some count }

def withNodesPerReplica (r : NodeRequest) (nodes : UInt32) : NodeRequest :=
  { r with nodesPerReplica := nodes }

def withProfile (r : NodeRequest) (profile : ModelProfile) : NodeRequest :=
  { r with hasProfile := true, profile := some profile }

def withStorage (r : NodeRequest) (storage : String) : NodeRequest :=
  { r with storageRequirement := some storage }

/-- The storage of each node: the request's own, else the profile's, else the default. -/
def storageOr (r : NodeRequest) (default : String) : String :=
  match r.storageRequirement with
  | some storage => storage
  | none => (r.profile.bind fun p => p.diskStorageRequirement).getD default

/-- The nodes that the workload is to end up with. -/
def targetNodes (r : NodeRequest) : UInt32 :=
  if r.hasProfile then r.targetNodeCount.getD 1 else 1

/-- The context length for a replica of the request, zero where nothing is known. -/
def plannedLength (r : NodeRequest) (catalog : GpuCatalog) : UInt32 :=
  match r.profile, catalog.get? r.instanceType with
  | some profile, some capacity => ContextLength.plan profile capacity r.nodesPerReplica
  | _, _ => 0

/-- Sizes a request with a catalog. -/
def plan (r : NodeRequest) (catalog : GpuCatalog) : Except CapacityError SizingPlan := do
  let nodeCount ← estimateNodes catalog r.profile r.requestedNodeCount r.instanceType
  return { nodeCount, maxModelLen := r.plannedLength catalog }

end NodeRequest

end NodeSupply
