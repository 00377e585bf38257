import NodeSupply.Metadata
import NodeSupply.Text.Case

/-!
Node claims: requests for one node of an instance type, and what the cluster reports on them.
-/

namespace NodeSupply

/-- The node class that a claim refers to. -/
structure NodeClassRef where
  group : String
  kind : String
  name : String
deriving DecidableEq

/-- A mark that keeps work off a node unless it tolerates it. -/
structure Taint where
  key : String
  value : Option String
  effect : String
deriving DecidableEq

/-- A condition on the labels of the node that is launched. -/
structure Requirement where
  key : String
  operator : String
  values : List String
  minValues : Option UInt32
deriving DecidableEq

namespace Requirement

def isIn (key : String) (values : List String) : Requirement := ⟨key, "In", values, none⟩

def above (key value : String) : Requirement := ⟨key, "Gt", [value], none⟩

end Requirement

/-- A condition that the cluster reports on a claim. -/
structure Condition where
  type : String
  status : String
  reason : Option String := none
  message : Option String := none
  lastTransitionTime : Option String := none
deriving DecidableEq

namespace Condition

/-- The status of a condition that holds or does not. -/
def statusText (holds : Bool) : String := if holds then "True" else "False"

/-- A condition that was met or missed at a moment. -/
def observed (time type : String) (holds : Bool) : Condition :=
  { type, status := statusText holds, lastTransitionTime := some time }

def withReason (c : Condition) (reason : String) : Condition := { c with reason := some reason }

def withMessage (c : Condition) (message : String) : Condition := { c with message := some message }

def isTrue (c : Condition) : Bool := c.status = "True"

def isFalse (c : Condition) : Bool := c.status = "False"

end Condition

structure ClaimSpec where
  nodeClassRef : Option NodeClassRef := none
  taints : List Taint := []
  requirements : List Requirement := []
  /-- The resources requested, by name. -/
  resourceRequests : KeyMap String := .empty
deriving DecidableEq

structure ClaimStatus where
  nodeName : Option String := none
  providerId : Option String := none
  conditions : List Condition := []
deriving DecidableEq

/-- A request for one node. -/
structure NodeClaim where
  metadata : Metadata
  spec : ClaimSpec
  status : Option ClaimStatus := none
deriving DecidableEq

/-- The stages in the life of a claim. -/
inductive ClaimPhase where
  | created
  | launching
  | initialized
  | ready
  | launchFailed
  | deleted
deriving DecidableEq

namespace ClaimPhase

def name : ClaimPhase → String
  | .created => "Created"
  | .launching => "Launching"
  | .initialized => "Initialized"
  | .ready => "Ready"
  | .launchFailed => "LaunchFailed"
  | .deleted => "Deleted"

/-- Whether a claim in this phase stays in it. -/
def isTerminal : ClaimPhase → Bool
  | .ready | .launchFailed | .deleted => true
  | .created | .launching | .initialized => false

end ClaimPhase

namespace NodeClaim

/-- Part of the message of a launch for which no requested instance type was to be had. -/
def launchUnavailable : String := "all requested instance types were unavailable during launch"

def name (c : NodeClaim) : String := c.metadata.shownName

def labels (c : NodeClaim) : Option LabelSet := c.metadata.labels

def conditions (c : NodeClaim) : List Condition :=
  match c.status with
  | some status => status.conditions
  | none => []

/-- The first condition of a type. -/
def condition? (c : NodeClaim) (type : String) : Option Condition :=
  c.conditions.find? fun condition => condition.type = type

/-- Whether the first condition of a type is true. -/
def hasCondition (c : NodeClaim) (type : String) : Bool :=
  match c.condition? type with
  | some condition => condition.isTrue
  | none => false

def isReady (c : NodeClaim) : Bool := c.hasCondition "Ready"

def isInitialized (c : NodeClaim) : Bool := c.hasCondition "Initialized"

def isDeleting (c : NodeClaim) : Bool := c.metadata.deletionTimestamp.isSome

def isBound (c : NodeClaim) : Bool :=
  match c.status with
  | some { nodeName := some node, .. } => node ≠ ""
  | _ => false

/-- Whether the claim has its node: the Ready condition decides where there is one. -/
def isProvisioned (c : NodeClaim) : Bool :=
  match c.condition? "Ready" with
  | some condition => condition.isTrue
  | none => c.isBound

/-- The message of a launch that failed for want of every requested instance type. -/
def unavailableMessage? (c : NodeClaim) : Option String :=
  match c.condition? "Launched" with
  | some { status := "False", message := some message, .. } =>
    if Text.containsText message launchUnavailable then some message else none
  | _ => none

/-- The phase of a claim; deletion comes before readiness, and readiness before a failed launch. -/
def phase (c : NodeClaim) : ClaimPhase :=
  if c.isDeleting then .deleted
  else if c.isReady then .ready
  else if c.unavailableMessage?.isSome then .launchFailed
  else if c.isInitialized then .initialized
  else if (c.condition? "Launched").isSome then .launching
  else .created

def instanceTypes (c : NodeClaim) : List String :=
  (c.spec.requirements.filter fun r => r.key = Label.instanceType && r.operator = "In").flatMap
    fun r => r.values

def requestsInstanceType (c : NodeClaim) (instanceType : String) : Bool :=
  c.instanceTypes.contains instanceType

def createdAt (c : NodeClaim) : Option Timestamp := c.metadata.creationTimestamp

def withConditions (c : NodeClaim) (conditions : List Condition) : NodeClaim :=
  { c with status := some { c.status.getD {} with conditions } }

end NodeClaim

end NodeSupply
