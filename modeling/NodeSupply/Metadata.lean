import NodeSupply.Json.Basic
import NodeSupply.Labels
import NodeSupply.Timestamp.Basic

/-!
What every cluster object says about itself.
-/

namespace NodeSupply

structure OwnerReference where
  apiVersion : String
  kind : String
  name : String
  uid : String
  /-- Whether the owner manages the object. -/
  controller : Option Bool
  blockOwnerDeletion : Option Bool
deriving DecidableEq

structure ManagedFields where
  manager : Option String
  operation : Option String
  subresource : Option String
  apiVersion : Option String
  fieldsType : Option String
  fields : Option Json
  time : Option Timestamp
deriving DecidableEq

structure Metadata where
  name : Option String := none
  generateName : Option String := none
  nameSpace : Option String := none
  uid : Option String := none
  labels : Option LabelSet := none
  annotations : Option LabelSet := none
  finalizers : Option (List String) := none
  creationTimestamp : Option Timestamp := none
  deletionTimestamp : Option Timestamp := none
  deletionGraceSeconds : Option Int := none
  generation : Option Int := none
  resourceVersion : Option String := none
  selfLink : Option String := none
  owners : Option (List OwnerReference) := none
  managedFields : Option (List ManagedFields) := none
deriving DecidableEq

namespace Metadata

/-- The name of an object: its own, else what its name is made from, else nothing. -/
def shownName (m : Metadata) : String :=
  match m.name with
  | some name => name
  | none => m.generateName.getD ""

end Metadata

end NodeSupply
