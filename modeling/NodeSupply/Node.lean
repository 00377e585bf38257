import NodeSupply.Metadata

/-!
The nodes of a cluster, as far as their use for workloads goes.
-/

namespace NodeSupply

structure NodeCondition where
  type : String
  status : String
deriving DecidableEq

structure Node where
  metadata : Metadata
  conditions : List NodeCondition
deriving DecidableEq

namespace Node

def name (n : Node) : String := n.metadata.shownName

def labels (n : Node) : Option LabelSet := n.metadata.labels

/-- Whether the node is ready and stays. -/
def isAvailable (n : Node) : Bool :=
  n.metadata.deletionTimestamp.isNone &&
    n.conditions.any fun c => c.type = "Ready" && c.status = "True"

def simple (name : String) (labels : LabelSet) (ready : Bool) : Node where
  metadata := { name := some name, labels := some labels }
  conditions := [⟨"Ready", if ready then "True" else "False"⟩]

end Node

end NodeSupply
