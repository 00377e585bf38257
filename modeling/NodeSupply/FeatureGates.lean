import NodeSupply.Text.Blank
import NodeSupply.Text.Split

/-!
Feature gates, and the list of settings `name=true,name=false` that turns them on and off. Blank
segments count for nothing, blanks around names and values neither, and the last setting of a gate
stays.
-/

namespace NodeSupply

structure FeatureGates where
  /-- Create the node class before the first claim if it is missing. -/
  ensureNodeClass : Bool := false
  /-- All nodes are there already; claims are not created. -/
  disableNodeAutoProvisioning : Bool := false
deriving DecidableEq

inductive GateError where
  | noValue (segment : String)
  | badValue (name value : String)
  | unknownGate (name : String)
deriving DecidableEq

def GateError.message : GateError → String
  | .noValue segment => "invalid feature gate '" ++ segment ++ "'"
  | .badValue name value => "invalid value for feature gate " ++ name ++ ": " ++ value
  | .unknownGate name => "unknown feature gate " ++ name

namespace FeatureGates

inductive Gate where
  | ensureNodeClass
  | disableNodeAutoProvisioning
deriving DecidableEq

def Gate.ofName? (name : List Char) : Option Gate :=
  if name = "ensureNodeClass".toList then some .ensureNodeClass
  else if name = "disableNodeAutoProvisioning".toList then some .disableNodeAutoProvisioning
  else none

def wordValue? (word : List Char) : Option Bool :=
  if word = "true".toList then some true
  else if word = "false".toList then some false
  else none

def set (gates : FeatureGates) : Gate → Bool → FeatureGates
  | .ensureNodeClass, on => { gates with ensureNodeClass := on }
  | .disableNodeAutoProvisioning, on => { gates with disableNodeAutoProvisioning := on }

/-- The setting that a segment makes; none if it is blank. -/
def settingOf (segment : List Char) : Except GateError (Option (Gate × Bool)) :=
  let pair := Text.trimChars segment
  if pair.isEmpty then .ok none
  else
    match Text.cutAt '=' pair with
    | none => .error (.noValue (String.ofList pair))
    | some (name, value) =>
      match wordValue? (Text.trimChars value) with
      | none => .error (.badValue (String.ofList name) (String.ofList value))
      | some on =>
        match Gate.ofName? (Text.trimChars name) with
        | none => .error (.unknownGate (String.ofList (Text.trimChars name)))
        | some gate => .ok (some (gate, on))

/-- Applies the settings of the segments one after the other. -/
def applySegments (gates : FeatureGates) : List (List Char) → Except GateError FeatureGates
  | [] => .ok gates
  | segment :: rest => do
    match ← settingOf segment with
    | none => applySegments gates rest
    | some (gate, on) => applySegments (gates.set gate on) rest

def parse (raw : String) : Except GateError FeatureGates :=
  applySegments {} (Text.splitChars ',' raw.toList)

end FeatureGates

end NodeSupply
