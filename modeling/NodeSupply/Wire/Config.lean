import NodeSupply.Config
import NodeSupply.Wire.Sizing

/-!
Configurations as JSON. Durations are written in whole milliseconds and whole seconds.
-/

namespace NodeSupply

open Json

namespace FeatureGates

def fieldSpecs : List FieldSpec :=
  [defaulted "ensureNodeClass" readBool, defaulted "disableNodeAutoProvisioning" readBool]

def ofJson : Reader FeatureGates := fun j => do
  let f ← readFields "FeatureGates" fieldSpecs j
  let ensureNodeClass ← f.getD "ensureNodeClass" readBool false
  let disableNodeAutoProvisioning ← f.getD "disableNodeAutoProvisioning" readBool false
  return { ensureNodeClass, disableNodeAutoProvisioning }

def toJson (g : FeatureGates) : Json :=
  .object
    [("ensureNodeClass", .bool g.ensureNodeClass),
      ("disableNodeAutoProvisioning", .bool g.disableNodeAutoProvisioning)]

end FeatureGates

namespace WaitConfig

def fieldSpecs : List FieldSpec :=
  [defaulted "pollIntervalMillis" readU64, defaulted "deadlineSeconds" readU64]

def ofJson : Reader WaitConfig := fun j => do
  let f ← readFields "WaitConfig" fieldSpecs j
  let pollIntervalMillis ← f.getD "pollIntervalMillis" readU64 1000
  let deadlineSeconds ← f.getD "deadlineSeconds" readU64 240
  return { pollInterval := .ofMillis pollIntervalMillis, deadline := .ofSeconds deadlineSeconds }

def toJson (w : WaitConfig) : Json :=
  .object
    [("pollIntervalMillis", .nat w.pollInterval.wholeMillis.toNat),
      ("deadlineSeconds", .nat w.deadline.wholeSeconds.toNat)]

end WaitConfig

namespace Config

def fieldSpecs : List FieldSpec :=
  [needed "cloudProvider" CloudProvider.ofJson, optional "clusterName" readString,
    defaulted "featureGates" FeatureGates.ofJson, defaulted "wait" WaitConfig.ofJson,
    defaulted "nodePoolName" readString, defaulted "nodeClassName" readString,
    defaulted "defaultStorage" readString]

def ofJson : Reader Config := fun j => do
  let f ← readFields "ProvisionerConfig" fieldSpecs j
  let cloudProvider ← f.get "cloudProvider" CloudProvider.ofJson
  let clusterName ← f.get? "clusterName" readString
  let featureGates ← f.getD "featureGates" FeatureGates.ofJson {}
  let wait ← f.getD "wait" WaitConfig.ofJson {}
  let nodePoolName ← f.getD "nodePoolName" readString "kaito"
  let nodeClassName ← f.getD "nodeClassName" readString "default"
  let defaultStorage ← f.getD "defaultStorage" readString "1024Gi"
  .ok
    { cloudProvider, clusterName, featureGates, wait, nodePoolName, nodeClassName, defaultStorage }

def toJson (c : Config) : Json :=
  .object
    [("cloudProvider", c.cloudProvider.toJson), ("clusterName", ofOption .string c.clusterName),
      ("featureGates", c.featureGates.toJson), ("wait", c.wait.toJson),
      ("nodePoolName", .string c.nodePoolName), ("nodeClassName", .string c.nodeClassName),
      ("defaultStorage", .string c.defaultStorage)]

end Config

end NodeSupply
