import NodeSupply.Catalog.Basic
import NodeSupply.ModelProfile

/-!
How many nodes a workload needs. The answer only ever brings a workload together on fewer nodes: it
is never more than was asked for.
-/

namespace NodeSupply

/-- The node count of a workload that asks for none. -/
def defaultNodeCount : UInt32 := 1

/-- The whole bytes of GPU memory of a node. -/
def GpuCapacity.nodeBytes (c : GpuCapacity) : Nat :=
  (.ofNat c.gpuMemoryGib.toNat * bytesPerGib : Binary64).toNatBelow (UInt64.size - 1)

/-- The least number of nodes whose memory covers a requirement, zero for nodes without memory. -/
def minimumNodes (requiredGib : Binary64) (capacity : GpuCapacity) : Nat :=
  let perNode := capacity.nodeBytes
  if perNode = 0 then 0 else ((gibToBytes requiredGib).toNat + (perNode - 1)) / perNode

/-- Lowers a requested count to a minimum that is smaller and not zero. -/
def consolidate (requested : UInt32) (minimum : Nat) : UInt32 :=
  if minimum = 0 then requested
  else if minimum < requested.toNat then UInt32.ofNat minimum
  else requested

def namedProfile (profile : Option ModelProfile) : Option ModelProfile :=
  profile.filter fun p => !Text.isBlankText p.modelName

/-- The number of nodes for a workload on an instance type. -/
def estimateNodes (catalog : GpuCatalog) (profile : Option ModelProfile) (requested : Option UInt32)
    (instanceType : String) : Except CapacityError UInt32 :=
  let requested := requested.getD defaultNodeCount
  match namedProfile profile with
  | none => .ok requested
  | some p => do
    let capacity ← catalog.lookup instanceType
    let requiredGib ← p.totalGpuMemoryGib
    return consolidate requested (minimumNodes requiredGib capacity)

/-- The GPUs of each node: the catalogued count, or what the profile asks for. -/
def gpusPerNode (catalog : GpuCatalog) (profile : ModelProfile) (instanceType : String) : UInt32 :=
  match catalog.get? instanceType with
  | some capacity => capacity.gpuCount
  | none => max profile.gpuCountRequirement 1

end NodeSupply
