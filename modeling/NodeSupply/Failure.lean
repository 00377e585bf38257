import NodeSupply.CapacityError
import NodeSupply.Cloud
import NodeSupply.Duration
import NodeSupply.FeatureGates

/-!
Why acquiring nodes fails, in what wording, and whether trying again can help.
-/

namespace NodeSupply

structure ApiError where
  status : String
  message : String
  reason : String
  code : UInt16
deriving DecidableEq

def ApiError.text (e : ApiError) : String :=
  "ApiError: " ++ e.message ++ ": " ++ e.reason ++ " (ErrorResponse \x7b status: " ++
    Text.quote e.status ++ ", message: " ++ Text.quote e.message ++ ", reason: " ++
    Text.quote e.reason ++ ", code: " ++ toString e.code.toNat ++ " \x7d)"

/-- Why a call on the cluster has no answer. -/
inductive ClusterFault where
  /-- The server refused the call. -/
  | api (error : ApiError)
  /-- The answer is not what the call asks for. -/
  | unreadable
  /-- The call cannot be put into a request. -/
  | unsendable
deriving DecidableEq

namespace ClusterFault

def message : ClusterFault → String
  | .api error => error.text
  | .unreadable => "Error deserializing response"
  | .unsendable => "Failed to build request"

def code? : ClusterFault → Option UInt16
  | .api error => some error.code
  | _ => none

def isConflict (f : ClusterFault) : Bool := f.code? = some 409

def isMissing (f : ClusterFault) : Bool := f.code? = some 404

/-- Whether the server found fault with the call itself. -/
def isInvalid (f : ClusterFault) : Bool := f.code? = some 400 || f.code? = some 422

end ClusterFault

inductive ConfigError where
  | zeroWait
  | pollTooLong (poll deadline : Duration)
  | blankName
  | badStorage (error : CapacityError)
  | clusterNameUnset
  | clusterNameMissing
  | gates (error : GateError)
  | other (text : String)
deriving DecidableEq

def ConfigError.message : ConfigError → String
  | .zeroWait => "wait.pollIntervalMillis and wait.deadlineSeconds must be greater than zero"
  | .pollTooLong poll deadline =>
    "poll interval " ++ poll.text ++ " must be shorter than the deadline " ++ deadline.text
  | .blankName => "nodePoolName and nodeClassName must not be empty"
  | .badStorage error => "invalid defaultStorage: " ++ error.message
  | .clusterNameUnset => "CLUSTER_NAME is required when the cloud provider is aws"
  | .clusterNameMissing => "cluster name is required for aws"
  | .gates error => error.message
  | .other text => text

/-- Why nodes were not acquired. -/
inductive Failure where
  | capacity (error : CapacityError)
  | cluster (fault : ClusterFault)
  /-- No instance type that the claim allows was to be had. -/
  | instanceTypeUnavailable (claim instanceType message : String)
  | timeout (claim : String) (waited : Duration)
  | cancelled (claim : String)
  | unsupportedCloud (cloud : CloudProvider)
  | nodeClassBootstrap (kind name : String) (source : ClusterFault)
  | insufficientByoNodes (target available : Nat)
  | nameCollision (attempts : Nat)
  | config (error : ConfigError)
deriving DecidableEq

/-- How to go on after a failure. -/
inductive FailureClass where
  /-- The request has to be mended. -/
  | validation
  /-- It may work later. -/
  | transient
  /-- It does not work before the request changes. -/
  | terminal
  | timeout
  | cancelled
deriving DecidableEq

def FailureClass.name : FailureClass → String
  | .validation => "Validation"
  | .transient => "Transient"
  | .terminal => "Terminal"
  | .timeout => "Timeout"
  | .cancelled => "Cancelled"

namespace Failure

def message : Failure → String
  | .capacity error => error.message
  | .cluster fault => "Kubernetes API error: " ++ fault.message
  | .instanceTypeUnavailable claim instanceType text =>
    "node claim " ++ claim ++ " failed to launch instance type " ++ instanceType ++ ": " ++ text
  | .timeout claim waited =>
    "check node claim status timed out after " ++ toString waited.wholeSeconds.toNat ++
      "s: node claim " ++ claim ++ " is not ready"
  | .cancelled claim => "wait for node claim " ++ claim ++ " cancelled"
  | .unsupportedCloud cloud => "unsupported cloud provider " ++ cloud.name
  | .nodeClassBootstrap kind name source =>
    "error while creating " ++ kind ++ " " ++ name ++ ": " ++ source.message
  | .insufficientByoNodes target available =>
    "when node auto-provisioning is disabled, at least " ++ toString target ++
      " ready BYO nodes are required, found " ++ toString available
  | .nameCollision attempts =>
    "failed to create node claim after " ++ toString attempts ++ " attempts: name already taken"
  | .config error => "configuration error: " ++ error.message

def failureClass : Failure → FailureClass
  | .capacity _ | .unsupportedCloud _ | .insufficientByoNodes _ _ | .config _ => .validation
  | .cluster fault => if fault.isInvalid then .validation else .transient
  | .nodeClassBootstrap _ _ _ | .nameCollision _ => .transient
  | .instanceTypeUnavailable _ _ _ => .terminal
  | .timeout _ _ => .timeout
  | .cancelled _ => .cancelled

def isRetryable (f : Failure) : Bool :=
  f.failureClass = .transient || f.failureClass = .timeout

/-- The stable code of a failure, as published on a workload's status. -/
def reason : Failure → String
  | .capacity error => error.reason
  | .cluster _ => "KubernetesAPIError"
  | .instanceTypeUnavailable _ _ _ => "InstanceTypeUnavailable"
  | .timeout _ _ => "NodeClaimTimeout"
  | .cancelled _ => "Cancelled"
  | .unsupportedCloud _ => "UnsupportedCloudProvider"
  | .nodeClassBootstrap _ _ _ => "NodeClassCreationFailed"
  | .insufficientByoNodes _ _ => "InsufficientBYONodes"
  | .nameCollision _ => "NodeClaimNameCollision"
  | .config _ => "InvalidConfiguration"

end Failure

end NodeSupply
