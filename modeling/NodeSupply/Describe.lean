import NodeSupply.Binary64.Shortest
import NodeSupply.Orchestrator

/-!
The diagnostic texts of configured parts: the name of each record with its fields in braces, `..`
for what is not shown.
-/

namespace NodeSupply.Describe

/-- A record with its fields, and dots if there are more. -/
def record (name : String) (fields : List (String × String)) (more : Bool) : String :=
  let shown := fields.map fun field => field.1 ++ ": " ++ field.2
  name ++ " \x7b " ++ ", ".intercalate (shown ++ if more then [".."] else []) ++ " \x7d"

def flag (b : Bool) : String := if b then "true" else "false"

def optional (text : α → String) : Option α → String
  | none => "None"
  | some a => "Some(" ++ text a ++ ")"

/-- Ties go upwards. Numbers are written in full from 10⁻⁴ up to 10¹⁶, else with an exponent. -/
def numberLayout : Binary64.Layout := ⟨false, -4, 15, false, "NaN", "inf"⟩

def cloud : CloudProvider → String
  | .azure => "Azure"
  | .aws => "Aws"
  | .arc => "Arc"

def dialect : CloudDialect → String
  | .azure => "Azure"
  | .aws clusterName => record "Aws" [("cluster_name", Text.quote clusterName)] false
  | .arc => "Arc"

def gates (g : FeatureGates) : String :=
  record "FeatureGates"
    [("ensure_node_class", flag g.ensureNodeClass),
      ("disable_node_auto_provisioning", flag g.disableNodeAutoProvisioning)] false

def wait (w : WaitConfig) : String :=
  record "WaitConfig" [("poll_interval", w.pollInterval.text), ("deadline", w.deadline.text)] false

def config (c : Config) : String :=
  record "ProvisionerConfig"
    [("cloud_provider", cloud c.cloudProvider), ("cluster_name", optional Text.quote c.clusterName),
      ("feature_gates", gates c.featureGates), ("wait", wait c.wait),
      ("node_pool_name", Text.quote c.nodePoolName),
      ("node_class_name", Text.quote c.nodeClassName),
      ("default_storage", Text.quote c.defaultStorage)] false

def backoff (b : Backoff) : String :=
  record "Backoff"
    [("steps", toString b.steps.toNat), ("initial", b.initial.text),
      ("factor", numberLayout.text b.factor), ("cap", b.cap.text)] false

def orchestrator (o : Orchestrator) : String :=
  record "NodeClaimOrchestrator"
    [("cloud", dialect o.dialect), ("config", config o.config),
      ("list_backoff", backoff o.listBackoff)] true

def byoNodes (g : FeatureGates) : String := record "ByoResolver" [("feature_gates", gates g)] true

end NodeSupply.Describe
