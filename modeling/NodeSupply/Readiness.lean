import NodeSupply.Failure
import NodeSupply.NodeClaim

/-!
Whether a workload's claims are all up, and the condition that is published about it.
-/

namespace NodeSupply

/-- The state of a workload's claims as a whole. -/
inductive ClaimReadiness where
  | ready (claims : Nat)
  | countMismatch (current required : Nat)
  | notReady (claim : String)
deriving DecidableEq

/-- The condition to publish on a workload. -/
structure ProvisioningCondition where
  ready : Bool
  reason : String
  message : String
deriving DecidableEq

namespace ProvisioningCondition

def met (message : String) : ProvisioningCondition := ⟨true, "NodeClaimsReady", message⟩

def pending (reason message : String) : ProvisioningCondition := ⟨false, reason, message⟩

/-- The condition after an operation. A cancelled one leaves the status as it is, and one that ran
out of time is still provisioning. -/
def ofOutcome : Except Failure α → Option ProvisioningCondition
  | .ok _ => some (met "All node claims are ready")
  | .error f =>
    match f.failureClass with
    | .cancelled => none
    | .timeout => some (pending "NodeClaimsProvisioning" f.message)
    | _ => some (pending f.reason f.message)

/-- The condition of a workload that also uses nodes of its own. -/
def ofReadiness (byoNodes : Nat) : ClaimReadiness → ProvisioningCondition
  | .ready claims =>
    met ("All node claims are ready (node claims: " ++ toString claims ++ ", BYO nodes: " ++
      toString byoNodes ++ ")")
  | .countMismatch current required =>
    pending "NodeClaimCountMismatch"
      ("node claim count (" ++ toString current ++ ") does not match required (" ++
        toString required ++ ", BYO: " ++ toString byoNodes ++ ")")
  | .notReady claim =>
    pending "NodeClaimNotReady" ("node claim " ++ claim ++ " is not ready yet")

def type : String := "NodeClaimReady"

def status (c : ProvisioningCondition) : String := Condition.statusText c.ready

end ProvisioningCondition

end NodeSupply
