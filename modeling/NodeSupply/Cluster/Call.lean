import NodeSupply.Failure
import NodeSupply.Node
import NodeSupply.NodeClass

/-!
The calls that are made on a cluster, as data, and what each is answered with.
-/

namespace NodeSupply

/-- A call on the cluster's API. -/
inductive Call where
  | getNodeClaim (name : String)
  | createNodeClaim (claim : NodeClaim)
  | deleteNodeClaim (name : String)
  | listNodeClaims (selector : LabelSet)
  | nodeClassExists (kind : NodeClassKind) (name : String)
  | createNodeClass (manifest : NodeClass)
  | listNodes (selector : LabelSet)
deriving DecidableEq

inductive Operation where
  | getNodeClaim
  | createNodeClaim
  | deleteNodeClaim
  | listNodeClaims
  | getNodeClass
  | createNodeClass
  | listNodes
deriving DecidableEq

namespace Operation

def name : Operation → String
  | .getNodeClaim => "GetNodeClaim"
  | .createNodeClaim => "CreateNodeClaim"
  | .deleteNodeClaim => "DeleteNodeClaim"
  | .listNodeClaims => "ListNodeClaims"
  | .getNodeClass => "GetNodeClass"
  | .createNodeClass => "CreateNodeClass"
  | .listNodes => "ListNodes"

def all : List Operation :=
  [.getNodeClaim, .createNodeClaim, .deleteNodeClaim, .listNodeClaims, .getNodeClass,
    .createNodeClass, .listNodes]

end Operation

namespace Call

/-- What a call is answered with if it succeeds. -/
def Answer : Call → Type
  | .getNodeClaim _ => NodeClaim
  | .createNodeClaim _ => NodeClaim
  | .deleteNodeClaim _ => Unit
  | .listNodeClaims _ => List NodeClaim
  | .nodeClassExists _ _ => Bool
  | .createNodeClass _ => Unit
  | .listNodes _ => List Node

/-- What a call comes back with. -/
abbrev Outcome (c : Call) : Type := Except ClusterFault c.Answer

def operation : Call → Operation
  | .getNodeClaim _ => .getNodeClaim
  | .createNodeClaim _ => .createNodeClaim
  | .deleteNodeClaim _ => .deleteNodeClaim
  | .listNodeClaims _ => .listNodeClaims
  | .nodeClassExists _ _ => .getNodeClass
  | .createNodeClass _ => .createNodeClass
  | .listNodes _ => .listNodes

end Call

end NodeSupply
