import NodeSupply.Json.Reader
import NodeSupply.Metadata
import NodeSupply.Timestamp.Rfc3339

/-!
The metadata of cluster objects as JSON. Fields that are not set are left out, and null counts as
not set.
-/

namespace NodeSupply

open Json

namespace Json

def readTime : Reader Timestamp
  | .string s => (Timestamp.parse s).mapError fun e => .badTime e.message
  | j => .error (j.mismatch "an RFC 3339 formatted date and time string")

def timeJson (t : Timestamp) : Json := .string t.text

/-- Judges the members in the order given, however often a field is there. -/
def judgeOpenMembers (specs : List FieldSpec) : List (String × Json) → Except ReadError Unit
  | [] => .ok ()
  | (key, j) :: rest =>
    match specs.find? fun spec => spec.name = key with
    | none => judgeOpenMembers specs rest
    | some spec =>
      match spec.accepts j with
      | .error e => .error e
      | .ok () => judgeOpenMembers specs rest

/-- The fields of a record that only an object can be; the last of several of one name counts. -/
def readOpenFields (expected : String) (specs : List FieldSpec) : Reader Fields
  | .object members => (judgeOpenMembers specs members).map fun _ => members.reverse
  | j => .error (j.mismatch expected)

end Json

namespace OwnerReference

def fieldSpecs : List FieldSpec :=
  [optional "apiVersion" readString, optional "blockOwnerDeletion" readBool,
    optional "controller" readBool, optional "kind" readString, optional "name" readString,
    optional "uid" readString]

/-- Reads an owner; a name or version that is not set is empty. -/
def ofJson : Reader OwnerReference := fun j => do
  let f ← readOpenFields "OwnerReference" fieldSpecs j
  let apiVersion ← f.get? "apiVersion" readString
  let kind ← f.get? "kind" readString
  let name ← f.get? "name" readString
  let uid ← f.get? "uid" readString
  let controller ← f.get? "controller" readBool
  let blockOwnerDeletion ← f.get? "blockOwnerDeletion" readBool
  .ok
    { apiVersion := apiVersion.getD "", kind := kind.getD "", name := name.getD ""
      uid := uid.getD "", controller, blockOwnerDeletion }

def toJson (o : OwnerReference) : Json :=
  .object
    ([("apiVersion", .string o.apiVersion)] ++
      member? "blockOwnerDeletion" .bool o.blockOwnerDeletion ++
      member? "controller" .bool o.controller ++
      [("kind", .string o.kind), ("name", .string o.name), ("uid", .string o.uid)])

end OwnerReference

namespace ManagedFields

def fieldSpecs : List FieldSpec :=
  [optional "apiVersion" readString, optional "fieldsType" readString, optional "fieldsV1" readAny,
    optional "manager" readString, optional "operation" readString,
    optional "subresource" readString, optional "time" readTime]

def ofJson : Reader ManagedFields := fun j => do
  let f ← readOpenFields "ManagedFieldsEntry" fieldSpecs j
  let manager ← f.get? "manager" readString
  let operation ← f.get? "operation" readString
  let subresource ← f.get? "subresource" readString
  let apiVersion ← f.get? "apiVersion" readString
  let fieldsType ← f.get? "fieldsType" readString
  let fields ← f.get? "fieldsV1" readAny
  let time ← f.get? "time" readTime
  return { manager, operation, subresource, apiVersion, fieldsType, fields, time }

def toJson (m : ManagedFields) : Json :=
  .object
    (member? "apiVersion" .string m.apiVersion ++ member? "fieldsType" .string m.fieldsType ++
      member? "fieldsV1" id m.fields ++ member? "manager" .string m.manager ++
      member? "operation" .string m.operation ++ member? "subresource" .string m.subresource ++
      member? "time" timeJson m.time)

end ManagedFields

namespace Metadata

def fieldSpecs : List FieldSpec :=
  [optional "annotations" readTextMap, optional "creationTimestamp" readTime,
    optional "deletionGracePeriodSeconds" readI64, optional "deletionTimestamp" readTime,
    optional "finalizers" (readList readString), optional "generateName" readString,
    optional "generation" readI64, optional "labels" readTextMap,
    optional "managedFields" (readList ManagedFields.ofJson), optional "name" readString,
    optional "namespace" readString, optional "ownerReferences" (readList OwnerReference.ofJson),
    optional "resourceVersion" readString, optional "selfLink" readString,
    optional "uid" readString]

def ofJson : Reader Metadata := fun j => do
  let f ← readOpenFields "ObjectMeta" fieldSpecs j
  let name ← f.get? "name" readString
  let generateName ← f.get? "generateName" readString
  let nameSpace ← f.get? "namespace" readString
  let uid ← f.get? "uid" readString
  let labels ← f.get? "labels" readTextMap
  let annotations ← f.get? "annotations" readTextMap
  let finalizers ← f.get? "finalizers" (readList readString)
  let creationTimestamp ← f.get? "creationTimestamp" readTime
  let deletionTimestamp ← f.get? "deletionTimestamp" readTime
  let deletionGraceSeconds ← f.get? "deletionGracePeriodSeconds" readI64
  let generation ← f.get? "generation" readI64
  let resourceVersion ← f.get? "resourceVersion" readString
  let selfLink ← f.get? "selfLink" readString
  let owners ← f.get? "ownerReferences" (readList OwnerReference.ofJson)
  let managedFields ← f.get? "managedFields" (readList ManagedFields.ofJson)
  .ok
    { name, generateName, nameSpace, uid, labels, annotations, finalizers, creationTimestamp
      deletionTimestamp, deletionGraceSeconds, generation, resourceVersion, selfLink, owners
      managedFields }

def toJson (m : Metadata) : Json :=
  .object
    (member? "annotations" textMap m.annotations ++
      member? "creationTimestamp" timeJson m.creationTimestamp ++
      member? "deletionGracePeriodSeconds" .int m.deletionGraceSeconds ++
      member? "deletionTimestamp" timeJson m.deletionTimestamp ++
      member? "finalizers" strings m.finalizers ++ member? "generateName" .string m.generateName ++
      member? "generation" .int m.generation ++ member? "labels" textMap m.labels ++
      member? "managedFields" (list ManagedFields.toJson) m.managedFields ++
      member? "name" .string m.name ++ member? "namespace" .string m.nameSpace ++
      member? "ownerReferences" (list OwnerReference.toJson) m.owners ++
      member? "resourceVersion" .string m.resourceVersion ++
      member? "selfLink" .string m.selfLink ++ member? "uid" .string m.uid)

end Metadata

end NodeSupply
