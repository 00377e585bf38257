import NodeSupply.Catalog.BuiltIn
import NodeSupply.Json.Reader
import NodeSupply.ModelProfile

/-!
Clouds, GPU capacities and model profiles as JSON.
-/

namespace NodeSupply

open Json

namespace CloudProvider

def ofJson : Reader CloudProvider :=
  readVariant [("azure", .azure), ("aws", .aws), ("arc", .arc)] "one of `azure`, `aws`, `arc`"

def toJson (c : CloudProvider) : Json := .string c.name

end CloudProvider

namespace GpuCapacity

def fieldSpecs : List FieldSpec :=
  [needed "instanceType" readString, needed "gpuCount" readU32, needed "gpuMemoryGib" readU32,
    needed "gpuModel" readString, needed "localNvmeDiskEnabled" readBool]

def ofJson : Reader GpuCapacity := fun j => do
  let f ← readFields "GpuCapacity" fieldSpecs j
  let instanceType ← f.get "instanceType" readString
  let gpuCount ← f.get "gpuCount" readU32
  let gpuMemoryGib ← f.get "gpuMemoryGib" readU32
  let gpuModel ← f.get "gpuModel" readString
  let localNvmeDiskEnabled ← f.get "localNvmeDiskEnabled" readBool
  return { instanceType, gpuCount, gpuMemoryGib, gpuModel, localNvmeDiskEnabled }

def toJson (c : GpuCapacity) : Json :=
  .object
    [("instanceType", .string c.instanceType), ("gpuCount", .nat c.gpuCount.toNat),
      ("gpuMemoryGib", .nat c.gpuMemoryGib.toNat), ("gpuModel", .string c.gpuModel),
      ("localNvmeDiskEnabled", .bool c.localNvmeDiskEnabled)]

end GpuCapacity

/-- Reads a catalog: the name of a cloud for its built-in one, or a list of entries. -/
def GpuCatalog.ofJson : Reader GpuCatalog
  | .string name => (CloudProvider.ofJson (.string name)).map GpuCatalog.forCloud
  | j => (readList GpuCapacity.ofJson j).map GpuCatalog.ofList

namespace ModelProfile

def fieldSpecs : List FieldSpec :=
  [needed "modelName" readString, needed "hardTokenLimit" readU32, needed "bytesPerToken" readU64,
    needed "totalWeightSize" readString, needed "totalGpuMemoryRequirement" readString,
    defaulted "gpuCountRequirement" readU32,
    optional "diskStorageRequirement" readString]

def ofJson : Reader ModelProfile := fun j => do
  let f ← readFields "ModelResourceProfile" fieldSpecs j
  let modelName ← f.get "modelName" readString
  let hardTokenLimit ← f.get "hardTokenLimit" readU32
  let bytesPerToken ← f.get "bytesPerToken" readU64
  let totalWeightSize ← f.get "totalWeightSize" readString
  let totalGpuMemoryRequirement ← f.get "totalGpuMemoryRequirement" readString
  let gpuCountRequirement ← f.getD "gpuCountRequirement" readU32 1
  let diskStorageRequirement ← f.get? "diskStorageRequirement" readString
  .ok
    { modelName, hardTokenLimit, bytesPerToken, totalWeightSize, totalGpuMemoryRequirement
      gpuCountRequirement, diskStorageRequirement }

/-- The profile as an object; a disk size that is not asked for is left out. -/
def toJson (p : ModelProfile) : Json :=
  .object
    ([("modelName", .string p.modelName), ("hardTokenLimit", .nat p.hardTokenLimit.toNat),
      ("bytesPerToken", .nat p.bytesPerToken.toNat), ("totalWeightSize", .string p.totalWeightSize),
      ("totalGpuMemoryRequirement", .string p.totalGpuMemoryRequirement),
      ("gpuCountRequirement", .nat p.gpuCountRequirement.toNat)] ++
      member? "diskStorageRequirement" .string p.diskStorageRequirement)

end ModelProfile

end NodeSupply
