import NodeSupply.CapacityError
import NodeSupply.Text.Blank
import NodeSupply.Text.Case

/-!
The clouds that a cluster can run on.
-/

namespace NodeSupply

/-- The cloud of a cluster. Clusters connected through Arc use Azure's instance types and have no
claims of their own dialect. -/
inductive CloudProvider where
  | azure
  | aws
  | arc
deriving DecidableEq

namespace CloudProvider

def name : CloudProvider → String
  | .azure => "azure"
  | .aws => "aws"
  | .arc => "arc"

/-- Reads the name of a cloud, in any ASCII letter case and with blanks around it. -/
def parse (value : String) : Except CapacityError CloudProvider :=
  let folded := Text.lowerAscii (Text.trim value)
  if folded = "azure" then .ok .azure
  else if folded = "aws" then .ok .aws
  else if folded = "arc" then .ok .arc
  else .error (.unsupportedCloud value)

end CloudProvider

end NodeSupply
