import NodeSupply.Json.Basic
import NodeSupply.Readiness
import NodeSupply.Timestamp.Rfc3339

/-!
Writing the condition that is published on a workload.
-/

namespace NodeSupply

/-- The condition as it was met or missed at a moment, for a generation of the workload. -/
def ProvisioningCondition.toJson (c : ProvisioningCondition) (time : Timestamp)
    (observedGeneration : Option Int) : Json :=
  .object
    ([("lastTransitionTime", .string time.text), ("message", .string c.message)] ++
      Json.member? "observedGeneration" .int observedGeneration ++
      [("reason", .string c.reason), ("status", .string c.status),
        ("type", .string ProvisioningCondition.type)])

end NodeSupply
