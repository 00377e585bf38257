import NodeSupply.NodeClaim

/-!
Node classes: the cloud's settings that every claim of a cluster points at.
-/

namespace NodeSupply

inductive NodeClassKind where
  | aks
  | ec2
deriving DecidableEq

namespace NodeClassKind

def group : NodeClassKind → String
  | .aks => "karpenter.azure.com"
  | .ec2 => "karpenter.k8s.aws"

def version : NodeClassKind → String
  | .aks => "v1alpha2"
  | .ec2 => "v1beta1"

def kind : NodeClassKind → String
  | .aks => "AKSNodeClass"
  | .ec2 => "EC2NodeClass"

/-- The name under which objects of the kind are addressed. -/
def plural : NodeClassKind → String
  | .aks => "aksnodeclasses"
  | .ec2 => "ec2nodeclasses"

end NodeClassKind

structure AksNodeClassSpec where
  imageFamily : Option String
deriving DecidableEq

/-- The settings of nodes on AWS; networks are selected by their tags. -/
structure Ec2NodeClassSpec where
  amiFamily : Option String
  /-- The role that launched nodes take. -/
  role : String
  instanceStorePolicy : Option String
  subnetSelectorTerms : List (KeyMap String)
  securityGroupSelectorTerms : List (KeyMap String)
deriving DecidableEq

/-- A node class that can be submitted. -/
inductive NodeClass where
  | aks (metadata : Metadata) (spec : AksNodeClassSpec)
  | ec2 (metadata : Metadata) (spec : Ec2NodeClassSpec)
deriving DecidableEq

namespace NodeClass

def kind : NodeClass → NodeClassKind
  | .aks _ _ => .aks
  | .ec2 _ _ => .ec2

def metadata : NodeClass → Metadata
  | .aks metadata _ => metadata
  | .ec2 metadata _ => metadata

def name (c : NodeClass) : String := c.metadata.shownName

end NodeClass

end NodeSupply
