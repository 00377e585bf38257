import NodeSupply.Config
import NodeSupply.Yaml.Node.OfTokens
import NodeSupply.Yaml.Reading

/-!
Configurations in YAML files.
-/

namespace NodeSupply

open Yaml

def CloudProvider.reading : Reading CloudProvider := fun d n => do
  let name ← Reading.name d n
  [CloudProvider.azure, .aws, .arc].find? fun cloud => cloud.name = name

def FeatureGates.reading : Reading FeatureGates := fun d n => do
  let f ← Reading.fields ["ensureNodeClass", "disableNodeAutoProvisioning"] d n
  let ensureNodeClass ← Reading.fieldD "ensureNodeClass" Reading.bool false d f
  let disableNodeAutoProvisioning ←
    Reading.fieldD "disableNodeAutoProvisioning" Reading.bool false d f
  return { ensureNodeClass, disableNodeAutoProvisioning }

def WaitConfig.reading : Reading WaitConfig := fun d n => do
  let f ← Reading.fields ["pollIntervalMillis", "deadlineSeconds"] d n
  let poll ← Reading.fieldD "pollIntervalMillis" Reading.u64 1000 d f
  let deadline ← Reading.fieldD "deadlineSeconds" Reading.u64 240 d f
  return { pollInterval := .ofMillis poll, deadline := .ofSeconds deadline }

namespace Config

def fieldNames : List String :=
  ["cloudProvider", "clusterName", "featureGates", "wait", "nodePoolName", "nodeClassName",
    "defaultStorage"]

def reading : Reading Config := fun d n => do
  let f ← Reading.fields fieldNames d n
  let cloudProvider ← (f.lookup "cloudProvider").bind (CloudProvider.reading d)
  let clusterName ← Reading.fieldD "clusterName" (Reading.optional Reading.text) none d f
  let featureGates ← Reading.fieldD "featureGates" FeatureGates.reading {} d f
  let wait ← Reading.fieldD "wait" WaitConfig.reading {} d f
  let nodePoolName ← Reading.fieldD "nodePoolName" Reading.text "kaito" d f
  let nodeClassName ← Reading.fieldD "nodeClassName" Reading.text "default" d f
  let defaultStorage ← Reading.fieldD "defaultStorage" Reading.text "1024Gi" d f
  some
    { cloudProvider, clusterName, featureGates, wait, nodePoolName, nodeClassName, defaultStorage }

/-- The configuration that a YAML text holds, valid or not. -/
def ofYaml? (text : String) : Option Config := do
  let d ← Document.parse? text.toList
  reading d (← d.root)

/-- What is said of a file that cannot be read; its path has a placeholder. -/
def unreadableFile (reason : String) : LoadError :=
  .unreadable ("Failed to read config file <path>: " ++ reason)

/-- Loads the configuration of a file with some content, or of one that is not there. -/
def ofFile (content : Option (List UInt8)) : Except LoadError Config :=
  match content with
  | none => .error (unreadableFile "No such file or directory (os error 2)")
  | some octets =>
    match String.fromUTF8? ⟨octets.toArray⟩ with
    | none => .error (unreadableFile "stream did not contain valid UTF-8")
    | some text =>
      match ofYaml? text with
      | none => .error .malformed
      | some config => config.validated

end Config

end NodeSupply
