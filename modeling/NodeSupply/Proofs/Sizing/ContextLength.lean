import NodeSupply.Workload

/-! What a planned context length promises. Whatever the sizes and counts are, and whatever becomes of
them in arithmetic that rounds and overflows, the length is the greatest multiple of 256 tokens that
fits and that the model allows. -/

namespace NodeSupply

namespace ContextLength

/-- A context length in steps of 256 tokens that a model allows. -/
structure WithinLimit (limit length : UInt32) : Prop where
  aligned : alignment ∣ length.toNat
  limited : length ≤ limit

theorem withinLimit_zero (limit : UInt32) : WithinLimit limit 0 where
  aligned := Nat.dvd_zero _
  limited := UInt32.zero_le

/-- A planned length is set only if it is positive. -/
theorem WithinLimit.resolve {limit planned : UInt32} (within : WithinLimit limit planned) :
    resolve none planned = none ∨
      ∃ length, resolve none planned = some length ∧ 0 < length ∧ WithinLimit limit length := by
  by_cases zero : planned = 0
  · left
    simp [ContextLength.resolve, zero]
  · right
    refine ⟨planned, ?_, ?_, within⟩
    · simp [ContextLength.resolve, zero]
    · exact UInt32.pos_iff_ne_zero.mpr zero

/-- What has to be missing so that nothing can be planned at all. -/
def Unplannable (profile : ModelProfile) (capacity : GpuCapacity) (nodes : UInt32) : Prop :=
  profile.hardTokenLimit = 0 ∨ profile.bytesPerToken = 0 ∨ capacity.gpuMemoryGib = 0 ∨
    capacity.gpuCount = 0 ∨ nodes = 0 ∨ ∃ e, parseSize profile.totalWeightSize = .error e

section Plan

variable {profile : ModelProfile} {capacity : GpuCapacity} {nodes : UInt32}

theorem unplannable_iff :
    Unplannable profile capacity nodes ↔
      isDegenerate profile capacity nodes = true ∨
        ∃ e, parseSize profile.totalWeightSize = .error e := by
  simp [Unplannable, isDegenerate, or_assoc]

theorem rawTokens_of_unplannable (unplannable : Unplannable profile capacity nodes) :
    rawTokens profile capacity nodes = 0 := by
  rw [rawTokens]
  split
  · rfl
  · next counted =>
    obtain ⟨e, unparsed⟩ := (unplannable_iff.mp unplannable).resolve_left counted
    have weightless : profile.weightGib = none := by
      rw [ModelProfile.weightGib, unparsed]
      rfl
    rw [weightless]

variable (profile capacity nodes)

theorem toNat_plan :
    (plan profile capacity nodes).toNat =
      min (rawTokens profile capacity nodes) profile.hardTokenLimit.toNat / alignment * alignment := by
  have aligned := Nat.div_mul_le_self
    (min (rawTokens profile capacity nodes) profile.hardTokenLimit.toNat) alignment
  have word : profile.hardTokenLimit.toNat < UInt32.size := profile.hardTokenLimit.toNat_lt
  rw [plan, UInt32.toNat_ofNat_of_lt']
  omega

/-- What makes a length the one that is planned for a replica over some nodes. -/
structure Planned (length : UInt32) : Prop extends WithinLimit profile.hardTokenLimit length where
  fits : length.toNat ≤ rawTokens profile capacity nodes
  greatest : ∀ n, alignment ∣ n → n ≤ rawTokens profile capacity nodes →
    n ≤ profile.hardTokenLimit.toNat → n ≤ length.toNat
  absent : Unplannable profile capacity nodes → length = 0

theorem planned_plan : Planned profile capacity nodes (plan profile capacity nodes) := by
  have count := toNat_plan profile capacity nodes
  have below := Nat.div_mul_le_self
    (min (rawTokens profile capacity nodes) profile.hardTokenLimit.toNat) alignment
  have fits : (plan profile capacity nodes).toNat ≤ rawTokens profile capacity nodes := by
    omega
  constructor
  · constructor
    · rw [count]
      exact Nat.dvd_mul_left _ _
    · rw [UInt32.le_iff_toNat_le]
      omega
  · exact fits
  · intro n aligned inMemory allowed
    obtain ⟨steps, rfl⟩ := aligned
    rw [count, Nat.mul_comm alignment]
    refine Nat.mul_le_mul_right _ ((Nat.le_div_iff_mul_le (by decide)).mpr ?_)
    rw [Nat.mul_comm]
    exact Nat.le_min.mpr ⟨inMemory, allowed⟩
  · intro unplannable
    rw [rawTokens_of_unplannable unplannable] at fits
    exact UInt32.toNat_inj.mp (Nat.le_zero.mp fits)

end Plan

end ContextLength

/-! ### Sizing a request -/

namespace NodeRequest

variable {r : NodeRequest} {catalog : GpuCatalog} {sizing : SizingPlan}

theorem plan_eq_ok_iff :
    r.plan catalog = .ok sizing ↔
      estimateNodes catalog r.profile r.requestedNodeCount r.instanceType = .ok sizing.nodeCount ∧
        sizing.maxModelLen = r.plannedLength catalog := by
  rw [plan]
  cases estimateNodes catalog r.profile r.requestedNodeCount r.instanceType with
  | error e =>
      constructor
      · intro planned
        cases planned
      · rintro ⟨estimated, -⟩
        cases estimated
  | ok count =>
      constructor
      · intro planned
        cases planned
        exact ⟨rfl, rfl⟩
      · rintro ⟨estimated, length⟩
        cases estimated
        rw [← length]
        rfl

theorem plannedLength_of_unknown
    (unknown : r.profile = none ∨ catalog.get? r.instanceType = none) :
    r.plannedLength catalog = 0 := by
  rw [plannedLength]
  rcases unknown with unknown | unknown
  · rw [unknown]
  · rw [unknown]
    cases r.profile <;> rfl

theorem plannedLength_of_known {profile : ModelProfile} {capacity : GpuCapacity}
    (profiled : r.profile = some profile) (catalogued : catalog.get? r.instanceType = some capacity) :
    r.plannedLength catalog = ContextLength.plan profile capacity r.nodesPerReplica := by
  rw [plannedLength, profiled, catalogued]

end NodeRequest

/-- Every planned context length is the greatest multiple of 256 tokens that fits and that the model
allows, and zero where something is missing. So is the one of every request that can be sized, which
is zero where no model or no capacity is known. What is set of it without an explicit length is
either nothing or a positive multiple of 256 that the model allows. -/
theorem plannedLengths_bounded :
    (∀ profile capacity nodes,
      ContextLength.Planned profile capacity nodes (ContextLength.plan profile capacity nodes)) ∧
    (∀ (r : NodeRequest) (catalog : GpuCatalog) (sizing : SizingPlan), r.plan catalog = .ok sizing →
      (r.profile = none ∨ catalog.get? r.instanceType = none → sizing.maxModelLen = 0) ∧
      ∀ profile, r.profile = some profile →
        ContextLength.WithinLimit profile.hardTokenLimit sizing.maxModelLen ∧
        ∀ capacity, catalog.get? r.instanceType = some capacity →
          ContextLength.Planned profile capacity r.nodesPerReplica sizing.maxModelLen) ∧
    ∀ limit planned, ContextLength.WithinLimit limit planned →
      ContextLength.resolve none planned = none ∨
        ∃ length, ContextLength.resolve none planned = some length ∧ 0 < length ∧
          ContextLength.WithinLimit limit length := by
  refine ⟨ContextLength.planned_plan, ?_, fun _ _ within => within.resolve⟩
  intro r catalog sizing planned
  have length := (NodeRequest.plan_eq_ok_iff.mp planned).2
  constructor
  · intro unknown
    rw [length, NodeRequest.plannedLength_of_unknown unknown]
  · intro profile profiled
    have known : ∀ capacity, catalog.get? r.instanceType = some capacity →
        ContextLength.Planned profile capacity r.nodesPerReplica sizing.maxModelLen := by
      intro capacity catalogued
      rw [length, NodeRequest.plannedLength_of_known profiled catalogued]
      exact ContextLength.planned_plan _ _ _
    refine ⟨?_, known⟩
    cases catalogued : catalog.get? r.instanceType with
    | none =>
        rw [length, NodeRequest.plannedLength_of_unknown (.inr catalogued)]
        exact ContextLength.withinLimit_zero _
    | some capacity => exact (known capacity catalogued).toWithinLimit

end NodeSupply
