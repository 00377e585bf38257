import NodeSupply.Cluster.Call

/-!
A cluster that is kept in memory. Claims can be scripted to change their conditions from one look
to the next, and calls can be made to fail. A call is first counted, then fails if a failure is
queued for its operation, and only then reaches the objects.
-/

namespace NodeSupply

/-- The conditions that a claim takes on, one list at each look. -/
abbrev Script := List (List Condition)

/-- What a newly stored claim is stamped with. -/
structure Stamp where
  time : Timestamp
  uid : String
deriving DecidableEq

/-- The state of a cluster in memory. -/
structure Store where
  claims : KeyMap NodeClaim := .empty
  nodeClasses : List (NodeClassKind × String) := []
  nodes : List Node := []
  /-- The conditions that are still to come, by claim name. -/
  scripts : KeyMap Script := .empty
  /-- The script of every claim that is created from now on. -/
  launchScript : Script := []
  /-- The codes with which the next calls of an operation fail. -/
  failures : Operation → List UInt16 := fun _ => []
  /-- How often each operation was called. -/
  calls : Operation → Nat := fun _ => 0

namespace Store

def update {α : Type} (table : Operation → α) (op : Operation) (value : α) : Operation → α :=
  fun other => if other = op then value else table other

def fault (code : UInt16) (reason message : String) : ClusterFault :=
  .api { status := "Failure", message, reason, code }

def notFound (kind name : String) : ClusterFault :=
  fault 404 "NotFound" (kind ++ " \"" ++ name ++ "\" not found")

def alreadyExists (kind name : String) : ClusterFault :=
  fault 409 "AlreadyExists" (kind ++ " \"" ++ name ++ "\" already exists")

def injected (op : Operation) (code : UInt16) : ClusterFault :=
  fault code "InjectedFailure" (op.name ++ " failed")

/-- Counts a call, and takes the failure that is queued for it. -/
def enter (s : Store) (op : Operation) : Option ClusterFault × Store :=
  let s := { s with calls := update s.calls op (s.calls op + 1) }
  match s.failures op with
  | [] => (none, s)
  | code :: later => (some (injected op code), { s with failures := update s.failures op later })

/-- The conditions that a look at a claim brings, and the script behind them. -/
def nextConditions (s : Store) (name : String) : Option (List Condition × Script) :=
  match s.scripts.get? name with
  | some (conditions :: later) => some (conditions, later)
  | _ => none

def getNodeClaim (s : Store) (name : String) : Except ClusterFault NodeClaim × Store :=
  match s.nextConditions name with
  | none =>
    match s.claims.get? name with
    | none => (.error (notFound "NodeClaim" name), s)
    | some claim => (.ok claim, s)
  | some (conditions, later) =>
    let s := { s with scripts := s.scripts.insert name later }
    match s.claims.get? name with
    | none => (.error (notFound "NodeClaim" name), s)
    | some claim =>
      let claim := claim.withConditions conditions
      (.ok claim, { s with claims := s.claims.insert name claim })

/-- The claim as it is stored. -/
def stamped (claim : NodeClaim) (stamp : Stamp) : NodeClaim :=
  { claim with
    metadata :=
      { claim.metadata with creationTimestamp := some stamp.time, uid := some stamp.uid } }

/-- Gives a new claim the launch script, unless it has a script of its own. -/
def launchScripts (s : Store) (name : String) : KeyMap Script :=
  if !s.launchScript.isEmpty && !s.scripts.contains name then s.scripts.insert name s.launchScript
  else s.scripts

def createNodeClaim (s : Store) (stamp : Stamp) (claim : NodeClaim) :
    Except ClusterFault NodeClaim × Store :=
  if s.claims.contains claim.name then (.error (alreadyExists "NodeClaim" claim.name), s)
  else
    (.ok (stamped claim stamp),
      { s with
        claims := s.claims.insert claim.name (stamped claim stamp)
        scripts := s.launchScripts claim.name })

def deleteNodeClaim (s : Store) (name : String) : Except ClusterFault Unit × Store :=
  let s := { s with scripts := s.scripts.erase name }
  if s.claims.contains name then (.ok (), { s with claims := s.claims.erase name })
  else (.error (notFound "NodeClaim" name), s)

def matchingClaims (s : Store) (selector : LabelSet) : List NodeClaim :=
  s.claims.values.filter fun claim => LabelSet.matched claim.labels selector

/-- The nodes that a selector matches, in the order in which they were added. -/
def matchingNodes (s : Store) (selector : LabelSet) : List Node :=
  s.nodes.filter fun node => LabelSet.matched node.labels selector

def hasNodeClass (s : Store) (kind : NodeClassKind) (name : String) : Bool :=
  s.nodeClasses.contains (kind, name)

/-- Adds a node class, once. -/
def insertNodeClass (s : Store) (kind : NodeClassKind) (name : String) : Store :=
  if s.hasNodeClass kind name then s
  else { s with nodeClasses := (kind, name) :: s.nodeClasses }

def createNodeClass (s : Store) (manifest : NodeClass) : Except ClusterFault Unit × Store :=
  if s.hasNodeClass manifest.kind manifest.name then
    (.error (alreadyExists manifest.kind.kind manifest.name), s)
  else (.ok (), s.insertNodeClass manifest.kind manifest.name)

/-- The effect of a call that no failure stops. -/
def serve (s : Store) (stamp : Stamp) : (c : Call) → c.Outcome × Store
  | .getNodeClaim name => s.getNodeClaim name
  | .createNodeClaim claim => s.createNodeClaim stamp claim
  | .deleteNodeClaim name => s.deleteNodeClaim name
  | .listNodeClaims selector => (.ok (s.matchingClaims selector), s)
  | .nodeClassExists kind name => (.ok (s.hasNodeClass kind name), s)
  | .createNodeClass manifest => s.createNodeClass manifest
  | .listNodes selector => (.ok (s.matchingNodes selector), s)

def perform (s : Store) (stamp : Stamp) (c : Call) : c.Outcome × Store :=
  match s.enter c.operation with
  | (some f, s) => (.error f, s)
  | (none, s) => s.serve stamp c

/-! What is done to a store from outside, between calls. -/

def setLaunchScript (s : Store) (script : Script) : Store := { s with launchScript := script }

def scriptConditions (s : Store) (name : String) (script : Script) : Store :=
  { s with scripts := s.scripts.insert name script }

def setConditions (s : Store) (name : String) (conditions : List Condition) : Store :=
  match s.claims.get? name with
  | none => s
  | some claim => { s with claims := s.claims.insert name (claim.withConditions conditions) }

/-- Makes the next call of an operation fail that no earlier failure is queued for. -/
def failNext (s : Store) (op : Operation) (code : UInt16) : Store :=
  { s with failures := update s.failures op (s.failures op ++ [code]) }

def insertNodeClaim (s : Store) (claim : NodeClaim) : Store :=
  { s with claims := s.claims.insert claim.name claim }

def insertNode (s : Store) (node : Node) : Store := { s with nodes := s.nodes ++ [node] }

end Store

end NodeSupply
