import NodeSupply.Config
import NodeSupply.NodeClass

/-!
What claims and node classes look like on each cloud. That a claim asks for an instance type is the
same everywhere; clouds differ in what they ask for besides and in the node class.
-/

namespace NodeSupply

inductive CloudDialect where
  | azure
  | aws (clusterName : String)
  | arc
deriving DecidableEq

namespace CloudDialect

def ofConfig (c : Config) : Except ConfigError CloudDialect :=
  match c.cloudProvider with
  | .azure => .ok .azure
  | .arc => .ok .arc
  | .aws =>
    match c.usableClusterName? with
    | some name => .ok (.aws name)
    | none => .error .clusterNameMissing

def cloud : CloudDialect → CloudProvider
  | .azure => .azure
  | .aws _ => .aws
  | .arc => .arc

/-- The kind of the cloud's node class, if it has one. -/
def nodeClassKind? : CloudDialect → Option NodeClassKind
  | .azure => some .aks
  | .aws _ => some .ec2
  | .arc => none

def nodeClassRef? (d : CloudDialect) (name : String) : Option NodeClassRef :=
  d.nodeClassKind?.map fun kind => ⟨kind.group, kind.kind, name⟩

/-- What a claim asks for besides the common requirements. -/
def claimSelector (d : CloudDialect) (instanceType : String) : List Requirement :=
  match d with
  | .azure => [.isIn Label.azureSkuName [instanceType]]
  | .aws _ => [.above Label.awsGpuCount "0"]
  | .arc => []

def described (name description : String) : Metadata where
  name := some name
  annotations := some (.ofList [(Label.description, description)])

def discovery (clusterName : String) : KeyMap String := .ofList [(Label.discoveryTag, clusterName)]

def nodeClass (d : CloudDialect) (name : String) : Except Failure NodeClass :=
  match d with
  | .azure =>
    .ok (.aks (described name "General purpose AKSNodeClass for running Ubuntu 22.04 nodes")
      { imageFamily := some "Ubuntu2204" })
  | .aws clusterName =>
    .ok (.ec2 (described name "General purpose EC2NodeClass for running Amazon Linux 2 nodes")
      { amiFamily := some "AL2"
        role := "KarpenterNodeRole-" ++ clusterName
        instanceStorePolicy := some "RAID0"
        subnetSelectorTerms := [discovery clusterName]
        securityGroupSelectorTerms := [discovery clusterName] })
  | .arc => .error (.unsupportedCloud .arc)

end CloudDialect

end NodeSupply
