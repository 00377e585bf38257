import NodeSupply.Text.Quoted

/-!
What can be wrong with the input of a sizing question. None of it goes away by asking again.
-/

namespace NodeSupply

inductive CapacityError where
  | gpuConfigNotFound (instanceType : String)
  | invalidProfile (model reason : String)
  | invalidSize (value : String)
  | unsupportedCloud (value : String)
deriving DecidableEq

namespace CapacityError

def message : CapacityError → String
  | .gpuConfigNotFound instanceType => "GPU config is nil for instance type " ++ instanceType
  | .invalidProfile model reason => "invalid resource profile for model " ++ model ++ ": " ++ reason
  | .invalidSize value =>
    "invalid size string " ++ Text.quote value ++ ": expected a number followed by Ti, Gi or Mi"
  | .unsupportedCloud value => "unsupported cloud provider " ++ Text.quote value

/-- The stable code of an error, as published on a workload's status. -/
def reason : CapacityError → String
  | .gpuConfigNotFound _ => "GPUConfigNotFound"
  | .invalidProfile _ _ => "InvalidResourceProfile"
  | .invalidSize _ => "InvalidSize"
  | .unsupportedCloud _ => "UnsupportedCloudProvider"

end CapacityError

end NodeSupply
