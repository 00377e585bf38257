import NodeSupply.Catalog.Basic
import NodeSupply.ModelProfile

/-!
The longest context that fits beside the weights in GPU memory. Zero stands for no suggestion.
-/

namespace NodeSupply

namespace ContextLength

/-- The part of GPU memory that can be used, 0.82. -/
def usablePart : Binary64 := .ofDecimal false 82 (-2)

/-- How much larger weights are in memory than on disk, 1.02. -/
def weightGrowth : Binary64 := .ofDecimal false 102 (-2)

/-- The GiB that each GPU keeps free for other uses, 2.3. -/
def reservedGib : Binary64 := .ofDecimal false 23 (-1)

/-- Context lengths are multiples of this many tokens. -/
def alignment : Nat := 256

/-- The number of parts that a replica's state is split into. -/
def shards (capacity : GpuCapacity) (nodesPerReplica : UInt32) : Binary64 :=
  .ofNat nodesPerReplica.toNat * .ofNat capacity.gpuCount.toNat

/-- A quantity of a replica as it falls to each GPU. -/
def share (family : ModelFamily) (shards quantity : Binary64) : Binary64 :=
  if family.replicatesWeights then quantity else quantity / shards

/-- The GiB of each GPU that are left for tokens. -/
def freeGib (profile : ModelProfile) (weightGib : Binary64) (capacity : GpuCapacity)
    (shards : Binary64) : Binary64 :=
  .ofNat capacity.gpuMemoryGib.toNat * usablePart / .ofNat capacity.gpuCount.toNat -
    share profile.family shards (weightGib * weightGrowth) - reservedGib

/-- The tokens that fit into the free memory, held within 32 bits. -/
def fittingTokens (freeGib perToken : Binary64) : Nat :=
  if !Binary64.zero.lt freeGib || !Binary64.zero.lt perToken then 0
  else (freeGib * bytesPerGib / perToken).floor.toNatBelow (UInt32.size - 1)

/-- Whether a quantity that the plan divides by or bounds with is missing. -/
def isDegenerate (profile : ModelProfile) (capacity : GpuCapacity) (nodesPerReplica : UInt32) :
    Bool :=
  profile.hardTokenLimit = 0 || profile.bytesPerToken = 0 || capacity.gpuMemoryGib = 0 ||
    capacity.gpuCount = 0 || nodesPerReplica = 0

/-- The tokens that fit into a replica's memory, before the limit and the alignment. -/
def rawTokens (profile : ModelProfile) (capacity : GpuCapacity) (nodesPerReplica : UInt32) : Nat :=
  if isDegenerate profile capacity nodesPerReplica then 0
  else
    match profile.weightGib with
    | none => 0
    | some weightGib =>
      let shards := shards capacity nodesPerReplica
      fittingTokens (freeGib profile weightGib capacity shards)
        (share profile.family shards (.ofNat profile.bytesPerToken.toNat))

/-- The planned context length: what fits, held to the limit and cut to a multiple of 256. -/
def plan (profile : ModelProfile) (capacity : GpuCapacity) (nodesPerReplica : UInt32) : UInt32 :=
  .ofNat (min (rawTokens profile capacity nodesPerReplica) profile.hardTokenLimit.toNat /
    alignment * alignment)

/-- The context length to set: an explicit one, else the planned one if there is one. -/
def resolve (explicit : Option UInt32) (planned : UInt32) : Option UInt32 :=
  match explicit with
  | some length => some length
  | none => if planned = 0 then none else some planned

end ContextLength

end NodeSupply
