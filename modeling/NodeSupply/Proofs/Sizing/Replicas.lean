import NodeSupply.Proofs.Sizing.ContextLength
import NodeSupply.Proofs.Sizing.NodeCount

/-! Whether the nodes of a plan are enough for the replica that its context length is planned for. The
count is lowered to as few nodes as hold the model, however many nodes a replica spans, so they are
enough exactly if no smaller number than a replica spans holds the model. -/

namespace NodeSupply

/-- A count is lowered to a smaller one or less exactly if that holds what is required, which is not
nothing. -/
theorem consolidate_minimumNodes_le_iff {requested : UInt32} {n : Nat} (fewer : n < requested.toNat)
    (requiredGib : Binary64) (capacity : GpuCapacity) :
    (consolidate requested (minimumNodes requiredGib capacity)).toNat ≤ n ↔
      0 < (gibToBytes requiredGib).toNat ∧
        (gibToBytes requiredGib).toNat ≤ n * (capacity.gpuMemoryGib.toNat * 2 ^ 30) := by
  rw [toNat_consolidate, minimumNodes_eq]
  generalize (gibToBytes requiredGib).toNat = b
  generalize capacity.gpuMemoryGib.toNat * 2 ^ 30 = c
  have zero : b ⌈/⌉ c = 0 ↔ b = 0 ∨ c = 0 := ceilDiv_eq_zero_iff
  rcases Nat.eq_zero_or_pos c with rfl | positive
  · rw [if_pos (zero.mpr (.inr rfl))]
    omega
  · rw [Nat.mul_comm n, ← ceilDiv_le_iff_le_mul positive]
    split <;> omega

namespace NodeRequest

/-- Whether a request names a model whose memory is known and not zero, and a number of nodes of its
instance type has that memory. -/
def HeldBy (r : NodeRequest) (catalog : GpuCatalog) (nodes : Nat) : Prop :=
  ∃ profile capacity requiredGib, r.profile = some profile ∧
    Text.isBlankText profile.modelName = false ∧
    catalog.get? r.instanceType = some capacity ∧
    parseRequirement profile.totalGpuMemoryRequirement = .ok requiredGib ∧
    0 < (gibToBytes requiredGib).toNat ∧
    (gibToBytes requiredGib).toNat ≤ nodes * (capacity.gpuMemoryGib.toNat * 2 ^ 30)

variable {r : NodeRequest} {catalog : GpuCatalog}

/-- The count of a request is at most a smaller one than is asked for exactly if that holds the model. -/
theorem estimate_le_iff_heldBy {count : UInt32} {n : Nat}
    (estimated : estimateNodes catalog r.profile r.requestedNodeCount r.instanceType = .ok count)
    (fewer : n < (r.requestedNodeCount.getD 1).toNat) : count.toNat ≤ n ↔ r.HeldBy catalog n := by
  by_cases unnamed : ∀ p, r.profile = some p → Text.isBlankText p.modelName = true
  · rw [estimateNodes_unnamed catalog r.instanceType unnamed] at estimated
    cases estimated
    constructor
    · intro few
      omega
    · rintro ⟨profile, _, _, profiled, named, _⟩
      rw [unnamed profile profiled] at named
      cases named
  · push Not at unnamed
    obtain ⟨profile, profiled, named⟩ := unnamed
    replace named := eq_false_of_ne_true named
    rw [profiled, estimateNodes_named catalog r.instanceType named] at estimated
    cases catalogued : catalog.get? r.instanceType with
    | none =>
        rw [catalogued] at estimated
        cases estimated
    | some capacity =>
        cases parsed : parseRequirement profile.totalGpuMemoryRequirement with
        | error e =>
            rw [catalogued, parsed] at estimated
            cases estimated
        | ok requiredGib =>
            rw [catalogued, parsed] at estimated
            cases estimated
            rw [consolidate_minimumNodes_le_iff fewer]
            constructor
            · rintro ⟨some, enough⟩
              exact ⟨profile, capacity, requiredGib, profiled, named, catalogued, parsed, some, enough⟩
            · rintro ⟨_, _, _, same, -, found, read, some, enough⟩
              cases profiled.symm.trans same
              cases catalogued.symm.trans found
              cases parsed.symm.trans read
              exact ⟨some, enough⟩

/-- The plan for at least as many nodes as a replica spans has so many exactly if one node less does not
hold the model. Otherwise it has the least number of nodes that do, while its context length is still
the one for a replica over all the nodes that it spans. -/
theorem plan_spans_replica_iff (r : NodeRequest) (catalog : GpuCatalog) (sizing : SizingPlan)
    (spans : 1 ≤ r.nodesPerReplica) (asked : r.nodesPerReplica ≤ r.requestedNodeCount.getD 1)
    (planned : r.plan catalog = .ok sizing) :
    (r.nodesPerReplica ≤ sizing.nodeCount ↔ ¬ r.HeldBy catalog (r.nodesPerReplica.toNat - 1)) ∧
    (∀ n < r.nodesPerReplica.toNat, r.HeldBy catalog n ↔ sizing.nodeCount.toNat ≤ n) ∧
    ∀ profile capacity, r.profile = some profile → catalog.get? r.instanceType = some capacity →
      sizing.maxModelLen = ContextLength.plan profile capacity r.nodesPerReplica := by
  obtain ⟨estimated, length⟩ := plan_eq_ok_iff.mp planned
  rw [UInt32.le_iff_toNat_le] at spans asked
  have one : (1 : UInt32).toNat = 1 := rfl
  have held : ∀ n < r.nodesPerReplica.toNat, (sizing.nodeCount.toNat ≤ n ↔ r.HeldBy catalog n) := by
    intro n fewer
    exact estimate_le_iff_heldBy estimated (by omega)
  refine ⟨?_, ?_, ?_⟩
  · rw [← held _ (by omega), UInt32.le_iff_toNat_le]
    omega
  · intro n fewer
    exact (held n fewer).symm
  · intro profile capacity profiled catalogued
    rw [length, plannedLength_of_known profiled catalogued]

/-- A replica over two nodes whose model needs more memory than one has. -/
theorem plan_spans_replica_of_large :
    let capacity : GpuCapacity := ⟨"Standard_NC12s_v3", 2, 32, "NVIDIA V100", false⟩
    let r : NodeRequest :=
      { owner := ⟨"phi", "ai"⟩, instanceType := "Standard_NC12s_v3", requestedNodeCount := some 10
        nodesPerReplica := 2
        profile := some ⟨"llama-3.1-8b", 131072, 131072, "15Gi", "40Gi", 1, none⟩ }
    1 ≤ r.nodesPerReplica ∧ r.nodesPerReplica ≤ r.requestedNodeCount.getD 1 ∧
      r.plan (.ofList [capacity]) = .ok ⟨2, 131072⟩ ∧ ¬ r.HeldBy (.ofList [capacity]) 1 := by
  intro capacity r
  have spans : 1 ≤ r.nodesPerReplica := by decide
  have asked : r.nodesPerReplica ≤ r.requestedNodeCount.getD 1 := by decide
  have planned : r.plan (.ofList [capacity]) = .ok ⟨2, 131072⟩ := by decide +kernel
  have enough := plan_spans_replica_iff r (.ofList [capacity]) ⟨2, 131072⟩ spans asked planned
  exact ⟨spans, asked, planned, enough.1.mp (by decide)⟩

/-- A replica over two nodes whose model has room on one: the context length that is planned is more than
twice what fits there. -/
theorem replica_without_its_nodes :
    let capacity : GpuCapacity := ⟨"Standard_NC12s_v3", 2, 32, "NVIDIA V100", false⟩
    let profile : ModelProfile := ⟨"llama-3.1-8b", 131072, 131072, "15Gi", "16Gi", 1, none⟩
    let r : NodeRequest :=
      { owner := ⟨"phi", "ai"⟩, instanceType := "Standard_NC12s_v3", requestedNodeCount := some 2
        nodesPerReplica := 2, profile := some profile }
    1 ≤ r.nodesPerReplica ∧ r.nodesPerReplica ≤ r.requestedNodeCount.getD 1 ∧
      ∃ sizing, r.plan (.ofList [capacity]) = .ok sizing ∧ ¬ r.nodesPerReplica ≤ sizing.nodeCount ∧
        sizing.maxModelLen = 131072 ∧
        ContextLength.plan profile capacity sizing.nodeCount = 51712 := by
  intro capacity profile r
  have planned : r.plan (.ofList [capacity]) = .ok ⟨1, 131072⟩ := by decide +kernel
  have alone : ContextLength.plan profile capacity 1 = 51712 := by decide +kernel
  exact ⟨by decide, by decide, _, planned, by decide, rfl, alone⟩

end NodeRequest

end NodeSupply
