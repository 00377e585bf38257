import NodeSupply.Size
import NodeSupply.Text.Case

/-!
What is known of a model before it is placed: its limits and the sizes of its parts.
-/

namespace NodeSupply

/-- The two ways in which models spread over the nodes of a replica. -/
inductive ModelFamily where
  /-- Every node holds the full weights. -/
  | falcon
  /-- The weights and the state of a token are spread over all GPUs of a replica. -/
  | sharded
deriving DecidableEq

namespace ModelFamily

def ofName (modelName : String) : ModelFamily :=
  if Text.containsText (Text.lowerCase modelName) "falcon" then .falcon else .sharded

def replicatesWeights : ModelFamily → Bool
  | .falcon => true
  | .sharded => false

end ModelFamily

/-- The resource profile of a model preset; sizes are kept as written. -/
structure ModelProfile where
  modelName : String
  /-- The greatest context length, in tokens. -/
  hardTokenLimit : UInt32
  bytesPerToken : UInt64
  totalWeightSize : String
  totalGpuMemoryRequirement : String
  /-- The GPUs of a node when its instance type is not catalogued. -/
  gpuCountRequirement : UInt32
  diskStorageRequirement : Option String
deriving DecidableEq

namespace ModelProfile

def family (p : ModelProfile) : ModelFamily := .ofName p.modelName

def weightGib (p : ModelProfile) : Option Binary64 := (parseSize p.totalWeightSize).toOption

/-- The memory that the whole model needs, in GiB. -/
def totalGpuMemoryGib (p : ModelProfile) : Except CapacityError Binary64 :=
  (parseRequirement p.totalGpuMemoryRequirement).mapError fun e =>
    .invalidProfile p.modelName ("totalGpuMemoryRequirement: " ++ e.message)

end ModelProfile

end NodeSupply
