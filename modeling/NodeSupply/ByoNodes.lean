import NodeSupply.Program
import NodeSupply.Workload

/-!
Nodes that are there already and that a workload can use, so that only the rest is provisioned.
-/

namespace NodeSupply

namespace ByoNodes

/-- The distinct texts of a list, each where it stands first. -/
def distinct (seen : List String) : List String → List String
  | [] => []
  | s :: rest => if seen.contains s then distinct seen rest else s :: distinct (s :: seen) rest

/-- For each distinct preferred name, the first node that has it. -/
def preferred (names : List String) (nodes : List Node) : List Node :=
  (distinct [] names).filterMap fun name => nodes.find? fun node => node.name = name

/-- Whether only preferred nodes count. Where claims are not created, any node will do. -/
def usesPreferred (gates : FeatureGates) (request : NodeRequest) : Bool :=
  !gates.disableNodeAutoProvisioning && !request.preferredNodeNames.isEmpty

/-- The nodes that a request can use, of those that carry its labels. -/
def usable (gates : FeatureGates) (request : NodeRequest) (nodes : List Node) : List Node :=
  let candidates :=
    if usesPreferred gates request then preferred request.preferredNodeNames nodes else nodes
  candidates.filter Node.isAvailable

/-- The nodes that a request can use now. -/
def available (gates : FeatureGates) (request : NodeRequest) :
    Program (Except Failure (List Node)) :=
  (Program.call (.listNodes request.labelSelector)).bind fun
    | .error f => .done (.error (.cluster f))
    | .ok nodes => .done (.ok (usable gates request nodes))

/-- The nodes that are still to be provisioned for a request. -/
def requiredAdditional (gates : FeatureGates) (request : NodeRequest) :
    Program (Except Failure Nat) :=
  if gates.disableNodeAutoProvisioning then .done (.ok 0)
  else
    (available gates request).mapOk fun nodes => request.targetNodes.toNat - nodes.length

/-- The number of usable nodes, which must do on its own where claims are not created. -/
def verifyCapacity (gates : FeatureGates) (request : NodeRequest) : Program (Except Failure Nat) :=
  (available gates request).andThen fun nodes =>
    if gates.disableNodeAutoProvisioning && nodes.length < request.targetNodes.toNat then
      .done (.error (.insufficientByoNodes request.targetNodes.toNat nodes.length))
    else .done (.ok nodes.length)

end ByoNodes

end NodeSupply
