import NodeSupply.Node
import NodeSupply.Wire.NodeDetails

/-!
Reading the nodes of a cluster.
-/

namespace NodeSupply

open Json

namespace NodeCondition

def fieldSpecs : List FieldSpec :=
  [optional "lastHeartbeatTime" readTime, optional "lastTransitionTime" readTime,
    optional "message" readString, optional "reason" readString, optional "status" readString,
    optional "type" readString]

def ofJson : Reader NodeCondition := fun j => do
  let f ← readOpenFields "NodeCondition" fieldSpecs j
  let type ← f.get? "type" readString
  let status ← f.get? "status" readString
  return { type := type.getD "", status := status.getD "" }

end NodeCondition

namespace Node

/-- Reads a text that has to be a given one. -/
def readExactly (text : String) : Reader Unit := fun j => do
  let s ← readString j
  if s = text then .ok () else .error (.wrongValue (Json.string s).kind text)

def statusSpecs : List FieldSpec :=
  optional "conditions" (readList NodeCondition.ofJson) :: NodeDetails.statusSpecs

def statusOfJson : Reader (List NodeCondition) := fun j => do
  let f ← readOpenFields "NodeStatus" statusSpecs j
  let conditions ← f.get? "conditions" (readList NodeCondition.ofJson)
  return conditions.getD []

def fieldSpecs : List FieldSpec :=
  [defaulted "apiVersion" (readExactly "v1"), defaulted "kind" (readExactly "Node"),
    optional "metadata" Metadata.ofJson, optional "spec" NodeDetails.readSpec,
    optional "status" statusOfJson]

def ofJson : Reader Node := fun j => do
  let f ← readOpenFields "Node" fieldSpecs j
  let metadata ← f.get? "metadata" Metadata.ofJson
  let conditions ← f.get? "status" statusOfJson
  return { metadata := metadata.getD {}, conditions := conditions.getD [] }

end Node

end NodeSupply
