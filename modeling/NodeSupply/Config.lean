import NodeSupply.Failure
import NodeSupply.Size

/-!
The configuration of the provisioner, and when it is valid.
-/

namespace NodeSupply

/-- How often and how long to look at a claim that is waited for. -/
structure WaitConfig where
  pollInterval : Duration := .ofSeconds 1
  deadline : Duration := .ofSeconds 240
deriving DecidableEq

/-- The configuration of the provisioner. -/
structure Config where
  cloudProvider : CloudProvider
  /-- Needed on AWS, for the role of nodes and the tags of networks. -/
  clusterName : Option String := none
  featureGates : FeatureGates := {}
  wait : WaitConfig := {}
  /-- The pool of the claims, which the autoscaler leaves alone. -/
  nodePoolName : String := "kaito"
  nodeClassName : String := "default"
  /-- The storage of nodes for workloads that ask for none. -/
  defaultStorage : String := "1024Gi"
deriving DecidableEq

namespace Config

/-- A cluster name that is there and not blank. -/
def usableClusterName? (c : Config) : Option String :=
  c.clusterName.filter fun name => !Text.isBlankText name

/-- Checks a configuration; of several faults the first in this order is reported. -/
def validate (c : Config) : Except ConfigError Unit :=
  if c.wait.pollInterval.nanos = 0 ∨ c.wait.deadline.nanos = 0 then .error .zeroWait
  else if c.wait.deadline.nanos ≤ c.wait.pollInterval.nanos then
    .error (.pollTooLong c.wait.pollInterval c.wait.deadline)
  else if Text.isBlankText c.nodePoolName ∨ Text.isBlankText c.nodeClassName then .error .blankName
  else
    match parseSize c.defaultStorage with
    | .error e => .error (.badStorage e)
    | .ok _ =>
      if c.cloudProvider = .aws ∧ c.usableClusterName?.isNone then .error .clusterNameUnset
      else .ok ()

def withClusterName (c : Config) (name : String) : Config := { c with clusterName := some name }

def withFeatureGates (c : Config) (gates : FeatureGates) : Config := { c with featureGates := gates }

def withWait (c : Config) (wait : WaitConfig) : Config := { c with wait }

inductive LoadError where
  /-- The source of the configuration cannot be read. -/
  | unreadable (reason : String)
  /-- The text is no configuration. -/
  | malformed
  | cloud (error : CapacityError)
  | invalid (error : ConfigError)
deriving DecidableEq

/-- Lets a loaded configuration pass only if it is valid. -/
def validated (c : Config) : Except LoadError Config :=
  match c.validate with
  | .error e => .error (.invalid e)
  | .ok () => .ok c

structure Environment where
  cloudProvider : Option String
  clusterName : Option String
  featureGates : Option String

def ofEnvironment (env : Environment) : Except LoadError Config := do
  let cloud ←
    match env.cloudProvider with
    | none => .error (.unreadable "CLOUD_PROVIDER is not set")
    | some value => (CloudProvider.parse value).mapError .cloud
  let gates ←
    match env.featureGates with
    | none => .ok {}
    | some raw => (FeatureGates.parse raw).mapError fun e => .invalid (.gates e)
  validated
    { cloudProvider := cloud
      clusterName := env.clusterName.filter fun name => !Text.isBlankText name
      featureGates := gates }

end Config

end NodeSupply
