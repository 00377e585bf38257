import NodeSupply.NodeClaim
import NodeSupply.Wire.Metadata

/-!
Node claims as JSON. Empty lists and values that are not set are left out, except for the
requirements and resources of a claim and the conditions of its status.
-/

namespace NodeSupply

open Json

/-- The member for a list, unless it is empty. -/
def Json.listMember (key : String) (encode : α → Json) (items : List α) : List (String × Json) :=
  if items.isEmpty then [] else [(key, .array (items.map encode))]

/-- The member for a text map, unless it is empty. -/
def Json.textMapMember (key : String) (m : KeyMap String) : List (String × Json) :=
  if m.isEmpty then [] else [(key, textMap m)]

namespace Condition

def fieldSpecs : List FieldSpec :=
  [needed "type" readString, needed "status" readString,
    optional "reason" readString, optional "message" readString,
    optional "lastTransitionTime" readString]

def ofJson : Reader Condition := fun j => do
  let f ← readFields "Condition" fieldSpecs j
  let type ← f.get "type" readString
  let status ← f.get "status" readString
  let reason ← f.get? "reason" readString
  let message ← f.get? "message" readString
  let lastTransitionTime ← f.get? "lastTransitionTime" readString
  return { type, status, reason, message, lastTransitionTime }

def toJson (c : Condition) : Json :=
  .object
    ([("type", .string c.type), ("status", .string c.status)] ++ member? "reason" .string c.reason ++
      member? "message" .string c.message ++
      member? "lastTransitionTime" .string c.lastTransitionTime)

end Condition

namespace NodeClassRef

def fieldSpecs : List FieldSpec :=
  [needed "group" readString, needed "kind" readString, needed "name" readString]

def ofJson : Reader NodeClassRef := fun j => do
  let f ← readFields "NodeClassReference" fieldSpecs j
  let group ← f.get "group" readString
  let kind ← f.get "kind" readString
  let name ← f.get "name" readString
  return { group, kind, name }

def toJson (r : NodeClassRef) : Json :=
  .object [("group", .string r.group), ("kind", .string r.kind), ("name", .string r.name)]

end NodeClassRef

namespace Taint

def fieldSpecs : List FieldSpec :=
  [needed "key" readString, optional "value" readString, needed "effect" readString]

def ofJson : Reader Taint := fun j => do
  let f ← readFields "Taint" fieldSpecs j
  let key ← f.get "key" readString
  let value ← f.get? "value" readString
  let effect ← f.get "effect" readString
  return { key, value, effect }

def toJson (t : Taint) : Json :=
  .object
    ([("key", .string t.key)] ++ member? "value" .string t.value ++ [("effect", .string t.effect)])

end Taint

namespace Requirement

def fieldSpecs : List FieldSpec :=
  [needed "key" readString, needed "operator" readString,
    defaulted "values" (readList readString), optional "minValues" readU32]

def ofJson : Reader Requirement := fun j => do
  let f ← readFields "NodeSelectorRequirement" fieldSpecs j
  let key ← f.get "key" readString
  let operator ← f.get "operator" readString
  let values ← f.getD "values" (readList readString) []
  let minValues ← f.get? "minValues" readU32
  return { key, operator, values, minValues }

def toJson (r : Requirement) : Json :=
  .object
    ([("key", .string r.key), ("operator", .string r.operator)] ++
      listMember "values" .string r.values ++
      member? "minValues" (fun n : UInt32 => .nat n.toNat) r.minValues)

end Requirement

namespace ClaimSpec

def resourcesOfJson : Reader (KeyMap String) := fun j => do
  let f ← readFields "ResourceRequirements" [defaulted "requests" readTextMap] j
  f.getD "requests" readTextMap .empty

def resourcesToJson (requests : KeyMap String) : Json := .object (textMapMember "requests" requests)

def fieldSpecs : List FieldSpec :=
  [optional "nodeClassRef" NodeClassRef.ofJson,
    defaulted "taints" (readList Taint.ofJson),
    defaulted "requirements" (readList Requirement.ofJson),
    defaulted "resources" resourcesOfJson]

def ofJson : Reader ClaimSpec := fun j => do
  let f ← readFields "NodeClaimSpec" fieldSpecs j
  let nodeClassRef ← f.get? "nodeClassRef" NodeClassRef.ofJson
  let taints ← f.getD "taints" (readList Taint.ofJson) []
  let requirements ← f.getD "requirements" (readList Requirement.ofJson) []
  let resourceRequests ← f.getD "resources" resourcesOfJson .empty
  return { nodeClassRef, taints, requirements, resourceRequests }

def toJson (s : ClaimSpec) : Json :=
  .object
    (member? "nodeClassRef" NodeClassRef.toJson s.nodeClassRef ++
      listMember "taints" Taint.toJson s.taints ++
      [("requirements", .array (s.requirements.map Requirement.toJson)),
        ("resources", resourcesToJson s.resourceRequests)])

end ClaimSpec

namespace ClaimStatus

def fieldSpecs : List FieldSpec :=
  [optional "nodeName" readString, optional "providerId" readString,
    defaulted "conditions" (readList Condition.ofJson)]

def ofJson : Reader ClaimStatus := fun j => do
  let f ← readFields "NodeClaimStatus" fieldSpecs j
  let nodeName ← f.get? "nodeName" readString
  let providerId ← f.get? "providerId" readString
  let conditions ← f.getD "conditions" (readList Condition.ofJson) []
  return { nodeName, providerId, conditions }

def toJson (s : ClaimStatus) : Json :=
  .object
    (member? "nodeName" .string s.nodeName ++ member? "providerId" .string s.providerId ++
      [("conditions", .array (s.conditions.map Condition.toJson))])

end ClaimStatus

namespace NodeClaim

def fieldSpecs : List FieldSpec :=
  [needed "metadata" Metadata.ofJson, needed "spec" ClaimSpec.ofJson,
    needed "status" (nullable ClaimStatus.ofJson)]

/-- Reads a claim; the API version and kind are not looked at. -/
def ofJson : Reader NodeClaim := fun j => do
  let f ← readFields "NodeClaim" fieldSpecs j
  let metadata ← f.get "metadata" Metadata.ofJson
  let spec ← f.get "spec" ClaimSpec.ofJson
  let status ← f.get? "status" ClaimStatus.ofJson
  return { metadata, spec, status }

def toJson (c : NodeClaim) : Json :=
  .object
    ([("apiVersion", .string "karpenter.sh/v1"), ("kind", .string "NodeClaim"),
      ("metadata", c.metadata.toJson), ("spec", c.spec.toJson)] ++
      member? "status" ClaimStatus.toJson c.status)

end NodeClaim

end NodeSupply
