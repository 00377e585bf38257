import NodeSupply.Wire.Sizing
import NodeSupply.Workload

/-!
Workloads and their requests as JSON.
-/

namespace NodeSupply

open Json

namespace WorkloadRef

def fieldSpecs : List FieldSpec := [needed "name" readString, needed "namespace" readString]

def ofJson : Reader WorkloadRef := fun j => do
  let f ← readFields "WorkloadRef" fieldSpecs j
  let name ← f.get "name" readString
  let nameSpace ← f.get "namespace" readString
  return { name, nameSpace }

def toJson (w : WorkloadRef) : Json :=
  .object [("name", .string w.name), ("namespace", .string w.nameSpace)]

end WorkloadRef

namespace NodeRequest

def fieldSpecs : List FieldSpec :=
  [needed "owner" WorkloadRef.ofJson, needed "instanceType" readString,
    optional "requestedNodeCount" readU32, defaulted "nodesPerReplica" readU32,
    defaulted "labelSelector" readTextMap, defaulted "preferredNodeNames" (readList readString),
    defaulted "hasProfile" readBool, optional "profile" ModelProfile.ofJson,
    optional "targetNodeCount" readU32,
    optional "storageRequirement" readString]

def ofJson : Reader NodeRequest := fun j => do
  let f ← readFields "ProvisioningRequest" fieldSpecs j
  let owner ← f.get "owner" WorkloadRef.ofJson
  let instanceType ← f.get "instanceType" readString
  let requestedNodeCount ← f.get? "requestedNodeCount" readU32
  let nodesPerReplica ← f.getD "nodesPerReplica" readU32 1
  let labelSelector ← f.getD "labelSelector" readTextMap .empty
  let preferredNodeNames ← f.getD "preferredNodeNames" (readList readString) []
  let hasProfile ← f.getD "hasProfile" readBool false
  let profile ← f.get? "profile" ModelProfile.ofJson
  let targetNodeCount ← f.get? "targetNodeCount" readU32
  let storageRequirement ← f.get? "storageRequirement" readString
  .ok
    { owner, instanceType, requestedNodeCount, nodesPerReplica, labelSelector, preferredNodeNames
      hasProfile, profile, targetNodeCount, storageRequirement }

/-- The count as a number, or null. -/
def countJson (n : Option UInt32) : Json := ofOption (fun n => .nat n.toNat) n

/-- The request as an object with all its fields, but without a profile that is not there. -/
def toJson (r : NodeRequest) : Json :=
  .object
    ([("owner", r.owner.toJson), ("instanceType", .string r.instanceType),
      ("requestedNodeCount", countJson r.requestedNodeCount),
      ("nodesPerReplica", .nat r.nodesPerReplica.toNat),
      ("labelSelector", textMap r.labelSelector),
      ("preferredNodeNames", strings r.preferredNodeNames), ("hasProfile", .bool r.hasProfile)] ++
      member? "profile" ModelProfile.toJson r.profile ++
      [("targetNodeCount", countJson r.targetNodeCount),
        ("storageRequirement", ofOption .string r.storageRequirement)])

end NodeRequest

end NodeSupply
