import NodeSupply.Proofs.Binary64.Monotonicity
import NodeSupply.Proofs.Sizing.ContextLength
import NodeSupply.Proofs.Sizing.SizeLimit
import NodeSupply.Proofs.Text

/-! What lengthens a planned context. More memory, more nodes, a higher limit or cheaper tokens never
shorten it, through all rounding and through every test on the way; and where each node holds the full
weights, the number of nodes does not matter. -/

namespace NodeSupply

open Binary64

theorem ModelProfile.atLeast_weightGib {p : ModelProfile} {weightGib : Binary64}
    (known : p.weightGib = some weightGib) : AtLeast weightGib 0 := by
  rw [ModelProfile.weightGib] at known
  cases read : parseSize p.totalWeightSize with
  | error e =>
      rw [read] at known
      cases known
  | ok g =>
      rw [read] at known
      cases known
      obtain ⟨t, -, rfl, -⟩ := readSize_eq_ok_iff.mp read
      exact t.atLeast_zero

namespace ContextLength

theorem within_usablePart : Within usablePart 1073 1074 :=
  within_ofDecimal 82 2 1 0 (by omega) (by omega) (by decide) (by decide)

theorem within_weightGrowth : Within weightGrowth 1074 1075 :=
  within_ofDecimal 102 2 0 1 (by omega) (by omega) (by decide) (by decide)

theorem within_reservedGib : Within reservedGib 1074 1076 :=
  within_ofDecimal 23 1 0 2 (by omega) (by omega) (by decide) (by decide)

theorem within_count {count : UInt32} (nonzero : count ≠ 0) : Within (.ofNat count.toNat) 1074 1106 :=
  within_ofNat (UInt32.pos_iff_ne_zero.mpr nonzero) count.toNat_lt.le (by omega)

theorem within_bytes {bytes : UInt64} (nonzero : bytes ≠ 0) : Within (.ofNat bytes.toNat) 1074 1138 :=
  within_ofNat (UInt64.pos_iff_ne_zero.mpr nonzero) bytes.toNat_lt.le (by omega)

theorem within_shards {capacity : GpuCapacity} {nodes : UInt32} (gpus : capacity.gpuCount ≠ 0)
    (placed : nodes ≠ 0) : Within (shards capacity nodes) 1074 1138 :=
  (within_count placed).mul (within_count gpus) (by omega) (by omega) (by omega)

section Share

variable (family : ModelFamily) {shards shards' quantity quantity' : Binary64} {i j k l : Nat}

theorem atLeast_share (unsigned : AtLeast quantity 0) (parts : Within shards i j) :
    AtLeast (share family shards quantity) 0 := by
  cases family with
  | falcon => exact unsigned
  | sharded =>
      obtain ⟨units, exact, positive⟩ := parts.exists_units
      exact (atLeast_zero_div exact positive).mpr unsigned

theorem below_share (less : Below quantity quantity') (more : Below shards' shards)
    (parts : Within shards i j) (parts' : Within shards' k l) :
    Below (share family shards quantity) (share family shards' quantity') := by
  cases family with
  | falcon => exact less
  | sharded => exact less.div more parts parts'

/-- A cost does not vanish when it is spread over the GPUs of a replica. -/
theorem within_share (cost : Within quantity 1074 1138) (parts : Within shards 1074 1138) :
    ∃ i j, Within (share family shards quantity) i j := by
  cases family with
  | falcon => exact ⟨1074, 1138, cost⟩
  | sharded => exact ⟨1010, 1138, cost.div parts (by omega) (by omega) (by omega)⟩

end Share

/-- What makes one replica have as much room for tokens as another one, or more: it differs by a higher
limit, by cheaper tokens that still cost something, by more memory or by more nodes. -/
structure AtLeastAsRoomy (profile : ModelProfile) (capacity : GpuCapacity) (nodes : UInt32)
    (profile' : ModelProfile) (capacity' : GpuCapacity) (nodes' : UInt32) : Prop where
  sameName : profile'.modelName = profile.modelName
  sameWeights : profile'.totalWeightSize = profile.totalWeightSize
  sameGpus : capacity'.gpuCount = capacity.gpuCount
  limit : profile.hardTokenLimit ≤ profile'.hardTokenLimit
  cheaper : profile'.bytesPerToken ≤ profile.bytesPerToken
  notFree : profile.bytesPerToken ≠ 0 → profile'.bytesPerToken ≠ 0
  memory : capacity.gpuMemoryGib ≤ capacity'.gpuMemoryGib
  nodes : nodes ≤ nodes'

theorem AtLeastAsRoomy.refl (profile : ModelProfile) (capacity : GpuCapacity) (nodes : UInt32) :
    AtLeastAsRoomy profile capacity nodes profile capacity nodes where
  sameName := rfl
  sameWeights := rfl
  sameGpus := rfl
  limit := UInt32.le_refl _
  cheaper := UInt64.le_refl _
  notFree := id
  memory := UInt32.le_refl _
  nodes := UInt32.le_refl _

section Plan

variable {profile profile' : ModelProfile} {capacity capacity' : GpuCapacity} {nodes nodes' : UInt32}
  {free free' cost cost' : Binary64} {i j k l : Nat}

theorem isDegenerate_eq_false_iff :
    isDegenerate profile capacity nodes = false ↔
      profile.hardTokenLimit ≠ 0 ∧ profile.bytesPerToken ≠ 0 ∧ capacity.gpuMemoryGib ≠ 0 ∧
        capacity.gpuCount ≠ 0 ∧ nodes ≠ 0 := by
  simp [isDegenerate, and_assoc]

theorem fittingTokens_mono (room : Below free free') (cheaper : Below cost' cost)
    (positive : Within cost i j) (positive' : Within cost' k l) :
    fittingTokens free cost ≤ fittingTokens free' cost' := by
  by_cases fits : zero.lt free = true
  · have fits' : zero.lt free' = true := zero_lt_iff.mpr (room 1 (zero_lt_iff.mp fits))
    simp only [fittingTokens, fits, fits', positive.zero_lt, positive'.zero_lt, Bool.not_true,
      Bool.or_false, Bool.false_eq_true, if_false]
    exact ((room.mul hasUnits_bytesPerGib.within).div cheaper positive positive').floor.toNatBelow_le _
  · simp [fittingTokens, fits]

variable (room : AtLeastAsRoomy profile capacity nodes profile' capacity' nodes')

include room

theorem AtLeastAsRoomy.not_degenerate (counted : isDegenerate profile capacity nodes = false) :
    isDegenerate profile' capacity' nodes' = false := by
  obtain ⟨limited, costly, memory, gpus, placed⟩ := isDegenerate_eq_false_iff.mp counted
  have kept {n m : UInt32} (le : n ≤ m) (positive : n ≠ 0) : m ≠ 0 :=
    UInt32.pos_iff_ne_zero.mp (UInt32.lt_of_lt_of_le (UInt32.pos_iff_ne_zero.mpr positive) le)
  exact isDegenerate_eq_false_iff.mpr ⟨kept room.limit limited, room.notFree costly,
    kept room.memory memory, room.sameGpus ▸ gpus, kept room.nodes placed⟩

theorem AtLeastAsRoomy.sameFamily : profile'.family = profile.family := by
  rw [ModelProfile.family, room.sameName, ModelProfile.family]

theorem AtLeastAsRoomy.below_shards (gpus : capacity.gpuCount ≠ 0) :
    Below (shards capacity nodes) (shards capacity' nodes') := by
  rw [shards, shards, room.sameGpus]
  exact (below_ofNat (UInt32.le_iff_toNat_le.mp room.nodes)).mul (within_count gpus)

theorem AtLeastAsRoomy.below_freeGib (counted : isDegenerate profile capacity nodes = false)
    {weightGib : Binary64} (unsigned : AtLeast weightGib 0) :
    Below (freeGib profile weightGib capacity (shards capacity nodes))
      (freeGib profile' weightGib capacity' (shards capacity' nodes')) := by
  obtain ⟨-, -, -, gpus, placed⟩ := isDegenerate_eq_false_iff.mp counted
  obtain ⟨-, -, -, gpus', placed'⟩ := isDegenerate_eq_false_iff.mp (room.not_degenerate counted)
  have memory := below_ofNat (UInt32.le_iff_toNat_le.mp room.memory)
  have usable := (memory.mul within_usablePart).div (.refl _) (within_count gpus) (within_count gpus)
  have heavy : AtLeast (weightGib * weightGrowth) 0 := by
    obtain ⟨units, exact, positive⟩ := within_weightGrowth.exists_units
    exact (atLeast_zero_mul exact positive).mpr unsigned
  -- More nodes take a smaller share of the weights each, and nothing else of the memory.
  have weights := below_share profile.family (.refl (weightGib * weightGrowth))
    (room.below_shards gpus) (within_shards gpus' placed') (within_shards gpus placed)
  rw [freeGib, freeGib, room.sameFamily, room.sameGpus]
  have left := usable.sub weights (atLeast_share profile.family heavy (within_shards gpus' placed'))
  exact left.sub_right within_reservedGib

theorem AtLeastAsRoomy.rawTokens_le :
    rawTokens profile capacity nodes ≤ rawTokens profile' capacity' nodes' := by
  rw [rawTokens, rawTokens]
  cases counted : isDegenerate profile capacity nodes with
  | true => exact Nat.zero_le _
  | false =>
      obtain ⟨-, costly, -, gpus, placed⟩ := isDegenerate_eq_false_iff.mp counted
      have counted' := room.not_degenerate counted
      obtain ⟨-, costly', -, gpus', placed'⟩ := isDegenerate_eq_false_iff.mp counted'
      have sameWeight : profile'.weightGib = profile.weightGib := by
        rw [ModelProfile.weightGib, room.sameWeights, ModelProfile.weightGib]
      rw [counted', sameWeight]
      cases known : profile.weightGib with
      | none => exact Nat.zero_le _
      | some weightGib =>
          have unsigned := ModelProfile.atLeast_weightGib known
          have cheaper := below_ofNat (UInt64.le_iff_toNat_le.mp room.cheaper)
          have cost := below_share profile.family cheaper (room.below_shards gpus)
            (within_shards gpus' placed') (within_shards gpus placed)
          obtain ⟨i, j, positive⟩ := within_share profile.family (within_bytes costly)
            (within_shards gpus placed)
          obtain ⟨k, l, positive'⟩ := within_share profile.family (within_bytes costly')
            (within_shards gpus' placed')
          simp only [Bool.false_eq_true, if_false, room.sameFamily]
          exact fittingTokens_mono (room.below_freeGib counted unsigned) cost positive positive'

/-- A plan is never shortened by more room. -/
theorem AtLeastAsRoomy.plan_le :
    plan profile capacity nodes ≤ plan profile' capacity' nodes' := by
  have limit := UInt32.le_iff_toNat_le.mp room.limit
  rw [UInt32.le_iff_toNat_le, toNat_plan, toNat_plan]
  refine Nat.mul_le_mul_right _ (Nat.div_le_div_right ?_)
  exact min_le_min room.rawTokens_le limit

end Plan

/-! ### Models that replicate their weights -/

theorem family_eq_falcon_iff {profile : ModelProfile} :
    profile.family = .falcon ↔ "falcon".toList <:+: (Text.lowerCase profile.modelName).toList := by
  rw [ModelProfile.family, ModelFamily.ofName, Text.containsText, ← Text.containsChars_iff]
  split
  · next found => exact iff_of_true rfl found
  · next absent => exact iff_of_false nofun absent

theorem rawTokens_of_falcon {profile : ModelProfile} (falcon : profile.family = .falcon)
    (capacity : GpuCapacity) {nodes nodes' : UInt32} (placed : nodes ≠ 0) (placed' : nodes' ≠ 0) :
    rawTokens profile capacity nodes = rawTokens profile capacity nodes' := by
  have sameTests : isDegenerate profile capacity nodes = isDegenerate profile capacity nodes' := by
    simp [isDegenerate, placed, placed']
  have whole (shards quantity : Binary64) : share profile.family shards quantity = quantity := by
    rw [falcon]
    rfl
  simp only [rawTokens, freeGib, sameTests, whole]

/-- More GPU memory, a higher limit or more nodes never shorten a planned context length, and a higher cost
of a token, where it had one, never lengthens it. For a model with falcon in its name all positive numbers
of nodes give the same length. -/
theorem plan_monotone (profile : ModelProfile) (capacity : GpuCapacity) (nodes : UInt32) :
    (∀ memory, capacity.gpuMemoryGib ≤ memory →
      plan profile capacity nodes ≤ plan profile { capacity with gpuMemoryGib := memory } nodes) ∧
    (∀ limit, profile.hardTokenLimit ≤ limit →
      plan profile capacity nodes ≤ plan { profile with hardTokenLimit := limit } capacity nodes) ∧
    (∀ cost, profile.bytesPerToken ≠ 0 → profile.bytesPerToken ≤ cost →
      plan { profile with bytesPerToken := cost } capacity nodes ≤ plan profile capacity nodes) ∧
    (∀ more, nodes ≤ more → plan profile capacity nodes ≤ plan profile capacity more) ∧
    ("falcon".toList <:+: (Text.lowerCase profile.modelName).toList →
      ∀ n m : UInt32, 1 ≤ n → 1 ≤ m → plan profile capacity n = plan profile capacity m) := by
  refine ⟨?_, ?_, ?_, ?_, ?_⟩
  · intro memory more
    exact AtLeastAsRoomy.plan_le { AtLeastAsRoomy.refl profile capacity nodes with memory := more }
  · intro limit higher
    exact AtLeastAsRoomy.plan_le { AtLeastAsRoomy.refl profile capacity nodes with limit := higher }
  · intro cost costly dearer
    refine AtLeastAsRoomy.plan_le ⟨rfl, rfl, rfl, UInt32.le_refl _, dearer, fun _ => costly, ?_, ?_⟩
    · exact UInt32.le_refl _
    · exact UInt32.le_refl _
  · intro more le
    exact AtLeastAsRoomy.plan_le { AtLeastAsRoomy.refl profile capacity nodes with nodes := le }
  · intro named n m placed placed'
    have positive {k : UInt32} (le : 1 ≤ k) : k ≠ 0 := by
      rintro rfl
      exact absurd le (by decide)
    rw [plan, plan, rawTokens_of_falcon (family_eq_falcon_iff.mpr named) capacity (positive placed)
      (positive placed')]

end ContextLength

end NodeSupply
