import NodeSupply.NodeClass
import NodeSupply.Wire.NodeClaim

/-!
Node classes as JSON.
-/

namespace NodeSupply

open Json

namespace AksNodeClassSpec

def fieldSpecs : List FieldSpec := [optional "imageFamily" readString]

def ofJson : Reader AksNodeClassSpec := fun j => do
  let f ← readFields "AksNodeClassSpec" fieldSpecs j
  let imageFamily ← f.get? "imageFamily" readString
  return { imageFamily }

def toJson (s : AksNodeClassSpec) : Json := .object (member? "imageFamily" .string s.imageFamily)

end AksNodeClassSpec

namespace Ec2NodeClassSpec

def termOfJson : Reader (KeyMap String) := fun j => do
  let f ← readFields "SelectorTerm" [defaulted "tags" readTextMap] j
  f.getD "tags" readTextMap .empty

def termToJson (tags : KeyMap String) : Json := .object (textMapMember "tags" tags)

def fieldSpecs : List FieldSpec :=
  [optional "amiFamily" readString, defaulted "role" readString,
    optional "instanceStorePolicy" readString,
    defaulted "subnetSelectorTerms" (readList termOfJson),
    defaulted "securityGroupSelectorTerms" (readList termOfJson)]

def ofJson : Reader Ec2NodeClassSpec := fun j => do
  let f ← readFields "Ec2NodeClassSpec" fieldSpecs j
  let amiFamily ← f.get? "amiFamily" readString
  let role ← f.getD "role" readString ""
  let instanceStorePolicy ← f.get? "instanceStorePolicy" readString
  let subnetSelectorTerms ← f.getD "subnetSelectorTerms" (readList termOfJson) []
  let securityGroupSelectorTerms ← f.getD "securityGroupSelectorTerms" (readList termOfJson) []
  return { amiFamily, role, instanceStorePolicy, subnetSelectorTerms, securityGroupSelectorTerms }

def toJson (s : Ec2NodeClassSpec) : Json :=
  .object
    (member? "amiFamily" .string s.amiFamily ++ [("role", .string s.role)] ++
      member? "instanceStorePolicy" .string s.instanceStorePolicy ++
      [("subnetSelectorTerms", .array (s.subnetSelectorTerms.map termToJson)),
        ("securityGroupSelectorTerms", .array (s.securityGroupSelectorTerms.map termToJson))])

end Ec2NodeClassSpec

namespace NodeClass

def fieldSpecs (spec : FieldSpec) : List FieldSpec := [needed "metadata" Metadata.ofJson, spec]

/-- Reads a node class of a kind; the API version and kind are not looked at. -/
def ofJson (kind : NodeClassKind) : Reader NodeClass := fun j =>
  match kind with
  | .aks => do
    let f ← readFields "AKSNodeClass" (fieldSpecs (needed "spec" AksNodeClassSpec.ofJson)) j
    let metadata ← f.get "metadata" Metadata.ofJson
    let spec ← f.get "spec" AksNodeClassSpec.ofJson
    return .aks metadata spec
  | .ec2 => do
    let f ← readFields "EC2NodeClass" (fieldSpecs (needed "spec" Ec2NodeClassSpec.ofJson)) j
    let metadata ← f.get "metadata" Metadata.ofJson
    let spec ← f.get "spec" Ec2NodeClassSpec.ofJson
    return .ec2 metadata spec

def specToJson : NodeClass → Json
  | .aks _ spec => spec.toJson
  | .ec2 _ spec => spec.toJson

def toJson (c : NodeClass) : Json :=
  .object
    [("apiVersion", .string (c.kind.group ++ "/" ++ c.kind.version)), ("kind", .string c.kind.kind),
      ("metadata", c.metadata.toJson), ("spec", c.specToJson)]

end NodeClass

end NodeSupply
