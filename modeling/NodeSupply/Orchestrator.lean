import NodeSupply.ClaimName
import NodeSupply.CloudDialect
import NodeSupply.Program
import NodeSupply.Readiness

/-!
The life of a workload's claims: creating them under fresh names, waiting for their nodes, and
keeping as many as the workload needs. Every operation is a program over calls on the cluster.
-/

namespace NodeSupply

/-- What it takes to manage the claims of a cluster. -/
structure Orchestrator where
  dialect : CloudDialect
  config : Config
  /-- The schedule by which listing is retried. -/
  listBackoff : Backoff := {}
deriving DecidableEq

/-- What was done to bring a workload to the number of claims it needs. -/
structure ClaimSync where
  created : List String := []
  deleted : List String := []
  /-- The claims that the workload owned before. -/
  existing : Nat
deriving DecidableEq

namespace Orchestrator

/-- An orchestrator for a configuration, which must be valid. -/
def ofConfig (config : Config) : Except ConfigError Orchestrator := do
  config.validate
  let dialect ← CloudDialect.ofConfig config
  return { dialect, config }

def withBackoff (o : Orchestrator) (backoff : Backoff) : Orchestrator :=
  { o with listBackoff := backoff }

/-! ### Claims -/

/-- The labels of a claim: its pool, its owner, and what the request selects by. -/
def claimLabels (o : Orchestrator) (request : NodeRequest) : LabelSet :=
  ((KeyMap.empty.insert Label.nodePool o.config.nodePoolName).insertMany
    request.owner.ownerLabels.entries).insertMany request.labelSelector.entries

/-- The requirements of a claim: its pool, its instance type, Linux, and what the cloud adds. -/
def claimRequirements (o : Orchestrator) (request : NodeRequest) : List Requirement :=
  [.isIn Label.nodePool [o.config.nodePoolName],
    .isIn Label.instanceType [request.instanceType],
    .isIn Label.operatingSystem ["linux"]] ++
    o.dialect.claimSelector request.instanceType

/-- Keeps work off the node that needs no GPU. -/
def gpuTaint : Taint := ⟨"sku", some "gpu", "NoSchedule"⟩

def claimWithId (o : Orchestrator) (request : NodeRequest) (id : String) : NodeClaim where
  metadata :=
    { name := some (ClaimName.of request.owner.nameSpace request.owner.name id)
      labels := some (o.claimLabels request)
      annotations := some (.ofList [(Label.doNotDisrupt, "true")]) }
  spec :=
    { nodeClassRef := o.dialect.nodeClassRef? o.config.nodeClassName
      taints := [gpuTaint]
      requirements := o.claimRequirements request
      resourceRequests := .ofList [("storage", request.storageOr o.config.defaultStorage)] }

def generateClaim (o : Orchestrator) (request : NodeRequest) : Program NodeClaim :=
  Program.freshId.bind fun id => .done (o.claimWithId request id)

/-! ### Creation -/

/-- Creates the node class if it is missing; one that is created meanwhile is as good. -/
def ensureNodeClass (o : Orchestrator) : Program (Except Failure Unit) :=
  match o.dialect.nodeClassKind? with
  | none => .done (.error (.unsupportedCloud o.dialect.cloud))
  | some kind =>
    (Program.call (.nodeClassExists kind o.config.nodeClassName)).bind fun
      | .error f => .done (.error (.cluster f))
      | .ok true => .done (.ok ())
      | .ok false =>
        match o.dialect.nodeClass o.config.nodeClassName with
        | .error f => .done (.error f)
        | .ok manifest =>
          (Program.call (.createNodeClass manifest)).bind fun
            | .ok _ => .done (.ok ())
            | .error f =>
              if f.isConflict then .done (.ok ())
              else .done (.error (.nodeClassBootstrap kind.kind o.config.nodeClassName f))

/-- Sees to the node class where that is asked for. -/
def prepare (o : Orchestrator) : Program (Except Failure Unit) :=
  if o.config.featureGates.ensureNodeClass then o.ensureNodeClass else .done (.ok ())

def submit (claim : NodeClaim) : Program (Except Failure NodeClaim) :=
  (Program.call (.createNodeClaim claim)).bind fun
    | .ok stored => .done (.ok stored)
    | .error f => .done (.error (.cluster f))

/-- Submits a claim, after the node class. -/
def createClaim (o : Orchestrator) (claim : NodeClaim) : Program (Except Failure NodeClaim) :=
  o.prepare.andThen fun _ => submit claim

def nameAttempts : Nat := 5

def nameRetryPause : Duration := .ofMillis 100

def isNameTaken : Failure → Bool
  | .cluster f => f.isConflict
  | _ => false

/-- Submits a claim of a request under one fresh name after the other. -/
def submitFresh (o : Orchestrator) (request : NodeRequest) :
    (attempts : Nat) → Program (Except Failure NodeClaim)
  | 0 => .done (.error (.nameCollision nameAttempts))
  | attempts + 1 =>
    (o.generateClaim request).bind fun claim =>
      (submit claim).bind fun
        | .ok stored => .done (.ok stored)
        | .error f =>
          if isNameTaken f then
            (Program.pause nameRetryPause).bind fun _ => o.submitFresh request attempts
          else .done (.error f)

def createClaimFor (o : Orchestrator) (request : NodeRequest) : Program (Except Failure NodeClaim) :=
  o.prepare.andThen fun _ => o.submitFresh request nameAttempts

/-! ### Waiting -/

/-- The failure that an interruption of a wait for a claim comes to. -/
def interrupted (o : Orchestrator) (name : String) : Interruption → Failure
  | .cancelled => .cancelled name
  | .deadline => .timeout name o.config.wait.deadline

/-- The verdict on a claim that was looked at, if there is one. -/
def verdict? (name : String) (claim : NodeClaim) : Option (Except Failure NodeClaim) :=
  if claim.isReady then some (.ok claim)
  else
    claim.unavailableMessage?.map fun message =>
      .error (.instanceTypeUnavailable name (claim.instanceTypes.head?.getD "") message)

/-- Looks at a claim until there is a verdict or the wait is interrupted; each look but the last is
followed by a pause, and a clock that moves on by each pause passes the deadline within `looks`. -/
def lookUntil (o : Orchestrator) (name : String) (deadline : Nat) :
    (looks : Nat) → Program (Except Failure NodeClaim)
  | 0 => .done (.error (o.interrupted name .deadline))
  | looks + 1 =>
    (Program.interruption deadline).bind fun
      | some i => .done (.error (o.interrupted name i))
      | none =>
        (Program.call (.getNodeClaim name)).bind fun
          | .error f => .done (.error (.cluster f))
          | .ok claim =>
            match verdict? name claim with
            | some verdict => .done verdict
            | none =>
              (Program.rest o.config.wait.pollInterval deadline).bind fun
                | some i => .done (.error (o.interrupted name i))
                | none => o.lookUntil name deadline looks

/-- One look more than there are pauses before the deadline. -/
def mostLooks (wait : WaitConfig) : Nat :=
  wait.deadline.nanos / min wait.pollInterval.nanos longestPause.nanos + 1

/-- Waits until a claim is ready, its launch fails, the time is up or the wait is cancelled. The moment of
the deadline must be one that the clock can come to. -/
def waitForReady (o : Orchestrator) (name : String) : Program (Except Failure NodeClaim) :=
  Program.now.bind fun started =>
    o.lookUntil name (started + o.config.wait.deadline.nanos) (mostLooks o.config.wait)

/-! ### A workload's claims -/

/-- The claims that a workload owns. Listing is retried after any error. -/
def listClaims (o : Orchestrator) (owner : WorkloadRef) : Program (Except Failure (List NodeClaim)) :=
  (o.listBackoff.run Program.pause (fun _ => true)
    (Program.call (.listNodeClaims owner.ownerLabels))).bind fun
      | .ok claims => .done (.ok claims)
      | .error f => .done (.error (.cluster f))

/-- Whether a claim is of a request's instance type and stays. -/
def isExisting (request : NodeRequest) (claim : NodeClaim) : Bool :=
  claim.requestsInstanceType request.instanceType && !claim.isDeleting

def existingClaims (o : Orchestrator) (request : NodeRequest) :
    Program (Except Failure (List NodeClaim)) :=
  (o.listClaims request.owner).mapOk fun claims => claims.filter (isExisting request)

def isPending (request : NodeRequest) (claim : NodeClaim) : Bool :=
  claim.requestsInstanceType request.instanceType && !claim.isInitialized && !claim.isDeleting

/-- Waits for claims one after the other. -/
def waitForEach (o : Orchestrator) : List NodeClaim → Program (Except Failure Unit)
  | [] => .done (.ok ())
  | claim :: rest => (o.waitForReady claim.name).andThen fun _ => o.waitForEach rest

def waitForPending (o : Orchestrator) (request : NodeRequest) : Program (Except Failure Unit) :=
  (o.listClaims request.owner).andThen fun claims =>
    o.waitForEach (claims.filter (isPending request))

/-- Deletes a claim; one that is gone already is as good. -/
def deleteClaim (name : String) : Program (Except Failure Unit) :=
  (Program.call (.deleteNodeClaim name)).bind fun
    | .ok _ => .done (.ok ())
    | .error f => if f.isMissing then .done (.ok ()) else .done (.error (.cluster f))

/-! ### Scaling -/

/-- Whether one moment is after another, where no moment counts as the oldest. -/
def isNewer : Option Timestamp → Option Timestamp → Bool
  | some a, some b => b.before a
  | some _, none => true
  | none, _ => false

/-- Whether a claim goes strictly before another: first those being deleted, then those without
their node, then the newest. -/
def goesBefore (a b : NodeClaim) : Bool :=
  if a.isDeleting ≠ b.isDeleting then a.isDeleting
  else if a.isProvisioned ≠ b.isProvisioned then b.isProvisioned
  else isNewer a.createdAt b.createdAt

/-- The claims in the order in which they go; claims of equal rank keep their order. -/
def deletionOrder (claims : List NodeClaim) : List NodeClaim :=
  claims.mergeSort fun a b => !goesBefore b a

/-- The claims that have to go so that `required` are left. -/
def victims (claims : List NodeClaim) (required : Nat) : List NodeClaim :=
  (deletionOrder claims).take (claims.length - required)

def createMany (o : Orchestrator) (request : NodeRequest) :
    (count : Nat) → (created : List String) → Program (Except Failure (List String))
  | 0, created => .done (.ok created)
  | count + 1, created =>
    (o.createClaimFor request).andThen fun claim =>
      o.createMany request count (created ++ [claim.name])

/-- Deletes claims, except those that are being deleted already. -/
def deleteEach : List NodeClaim → Program (Except Failure Unit)
  | [] => .done (.ok ())
  | claim :: rest =>
    if claim.isDeleting then deleteEach rest
    else (deleteClaim claim.name).andThen fun _ => deleteEach rest

/-- Brings the number of a workload's claims to `required`. -/
def syncClaims (o : Orchestrator) (request : NodeRequest) (required : UInt32) :
    Program (Except Failure ClaimSync) :=
  (o.listClaims request.owner).andThen fun claims =>
    if claims.length < required.toNat then
      (o.createMany request (required.toNat - claims.length) []).mapOk fun created =>
        { created, existing := claims.length }
    else
      let victims := victims claims required.toNat
      (deleteEach victims).mapOk fun _ =>
        { deleted := victims.map NodeClaim.name, existing := claims.length }

def readiness (claims : List NodeClaim) (required : Nat) : ClaimReadiness :=
  if claims.length ≠ required then .countMismatch claims.length required
  else
    match claims.find? fun claim => !claim.isProvisioned with
    | some claim => .notReady claim.name
    | none => .ready claims.length

/-- Whether a workload has exactly `required` claims, and all of them their nodes. -/
def claimsReady (o : Orchestrator) (request : NodeRequest) (required : UInt32) :
    Program (Except Failure ClaimReadiness) :=
  (o.listClaims request.owner).mapOk fun claims => readiness claims required.toNat

end Orchestrator

end NodeSupply
