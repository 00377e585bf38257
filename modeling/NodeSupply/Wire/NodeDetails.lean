import NodeSupply.Wire.Metadata

/-!
What the parts of a node are made of that have no use here. Each field that is there has to be of
its type; any may be left off or null.
-/

namespace NodeSupply.NodeDetails

open Json

def texts (names : List String) : List FieldSpec := names.map fun name => optional name readString

/-! ### What a node is to be -/

def configMapSpecs : List FieldSpec :=
  texts ["kubeletConfigKey", "name", "namespace", "resourceVersion", "uid"]

/-- Where a node has its configuration from. -/
def readConfigSource : Reader Fields :=
  readOpenFields "NodeConfigSource"
    [optional "configMap" (readOpenFields "ConfigMapNodeConfigSource" configMapSpecs)]

def taintSpecs : List FieldSpec :=
  texts ["effect", "key", "value"] ++ [optional "timeAdded" readTime]

def readSpec : Reader Fields :=
  readOpenFields "NodeSpec"
    (texts ["externalID", "podCIDR", "providerID"] ++
      [optional "configSource" readConfigSource, optional "podCIDRs" (readList readString),
        optional "taints" (readList (readOpenFields "Taint" taintSpecs)),
        optional "unschedulable" readBool])

/-! ### What a node reports -/

def configStatusSpecs : List FieldSpec :=
  [optional "active" readConfigSource, optional "assigned" readConfigSource,
    optional "error" readString, optional "lastKnownGood" readConfigSource]

def readEndpoint : Reader Fields := readOpenFields "DaemonEndpoint" [optional "Port" readI32]

def imageSpecs : List FieldSpec :=
  [optional "names" (readList readString), optional "sizeBytes" readI64]

def systemSpecs : List FieldSpec :=
  texts
    ["architecture", "bootID", "containerRuntimeVersion", "kernelVersion", "kubeProxyVersion",
      "kubeletVersion", "machineID", "operatingSystem", "osImage", "systemUUID"]

def runtimeFeatureSpecs : List FieldSpec :=
  [optional "recursiveReadOnlyMounts" readBool, optional "userNamespaces" readBool]

def runtimeSpecs : List FieldSpec :=
  [optional "features" (readOpenFields "NodeRuntimeHandlerFeatures" runtimeFeatureSpecs),
    optional "name" readString]

/-- The fields of a node's status other than its conditions. Amounts are texts. -/
def statusSpecs : List FieldSpec :=
  [optional "addresses" (readList (readOpenFields "NodeAddress" (texts ["address", "type"]))),
    optional "allocatable" readTextMap, optional "capacity" readTextMap,
    optional "config" (readOpenFields "NodeConfigStatus" configStatusSpecs),
    optional "daemonEndpoints"
      (readOpenFields "NodeDaemonEndpoints" [optional "kubeletEndpoint" readEndpoint]),
    optional "features"
      (readOpenFields "NodeFeatures" [optional "supplementalGroupsPolicy" readBool]),
    optional "images" (readList (readOpenFields "ContainerImage" imageSpecs)),
    optional "nodeInfo" (readOpenFields "NodeSystemInfo" systemSpecs),
    optional "phase" readString,
    optional "runtimeHandlers" (readList (readOpenFields "NodeRuntimeHandler" runtimeSpecs)),
    optional "volumesAttached"
      (readList (readOpenFields "AttachedVolume" (texts ["devicePath", "name"]))),
    optional "volumesInUse" (readList readString)]

end NodeSupply.NodeDetails
