import NodeSupply.KeyMap

/-!
Labels of cluster objects and the selectors that match them. A selector is a set of labels that an
object has to carry.
-/

namespace NodeSupply

/-- Labels, or the labels that a selector asks for. -/
abbrev LabelSet := KeyMap String

namespace LabelSet

/-- Whether an object with these labels, or without any, carries all that a selector asks for. -/
def matched (labels : Option LabelSet) (selector : LabelSet) : Bool :=
  selector.entries.all fun (key, value) => (labels.bind fun l => l.get? key) = some value

def term (entry : String × String) : String := entry.1 ++ "=" ++ entry.2

/-- The text of a selector: its terms in ascending key order, with commas between them. -/
def selectorText (selector : LabelSet) : String :=
  ",".intercalate (selector.entries.map term)

end LabelSet

namespace Label

/-- Places a node in a node pool. -/
def nodePool : String := "karpenter.sh/nodepool"

def instanceType : String := "node.kubernetes.io/instance-type"

def operatingSystem : String := "kubernetes.io/os"

/-- The instance type as Azure's claims ask for it. -/
def azureSkuName : String := "karpenter.azure.com/sku-name"

/-- The number of GPUs as AWS's claims ask for it. -/
def awsGpuCount : String := "karpenter.k8s.aws/instance-gpu-count"

/-- The name of the workload that owns a claim. -/
def workloadName : String := "capacity.platform/workload-name"

/-- The namespace of the workload that owns a claim. -/
def workloadNamespace : String := "capacity.platform/workload-namespace"

/-- The annotation that keeps a node from being disrupted. -/
def doNotDisrupt : String := "karpenter.sh/do-not-disrupt"

/-- The annotation that describes an object. -/
def description : String := "kubernetes.io/description"

/-- The tag by which a cluster's networks are found on AWS. -/
def discoveryTag : String := "karpenter.sh/discovery"

end Label

end NodeSupply
