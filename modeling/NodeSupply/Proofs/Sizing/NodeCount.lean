import Mathlib.Algebra.Order.Floor.Div
import Mathlib.GroupTheory.GroupAction.Ring
import NodeSupply.Proofs.Binary64.WholeNumbers
import NodeSupply.Sizing.NodeCount

/-! What an estimate of nodes promises. A count is only ever lowered, to the least number of nodes whose
memory covers the model; asking again with the answer changes nothing, and asking for more never
gets less. -/

namespace NodeSupply

/-! ### The memory of nodes -/

theorem isWhole_bytesPerGib : bytesPerGib.IsWhole (1 <<< 30) :=
  Binary64.isWhole_ofNat (Binary64.onGrid_one_shiftLeft 30) (by decide)

/-- The bytes of a node are computed without rounding. -/
theorem GpuCapacity.nodeBytes_eq (c : GpuCapacity) :
    c.nodeBytes = c.gpuMemoryGib.toNat * 2 ^ 30 := by
  have word : c.gpuMemoryGib.toNat < 2 ^ 32 := c.gpuMemoryGib.toNat_lt
  have gib : Binary64.IsWhole (.ofNat c.gpuMemoryGib.toNat) c.gpuMemoryGib.toNat :=
    Binary64.isWhole_ofNat (Binary64.onGrid_of_le (by omega)) (by omega)
  have product := gib.mul isWhole_bytesPerGib ((Binary64.onGrid_of_le (by omega)).mul_shiftLeft 30) (by omega)
  have held : c.gpuMemoryGib.toNat * 1 <<< 30 ≤ UInt64.size - 1 := by
    rw [UInt64.size]
    omega
  rw [nodeBytes, product.toNatBelow, Nat.min_eq_left held, Nat.one_shiftLeft]

theorem minimumNodes_eq (requiredGib : Binary64) (capacity : GpuCapacity) :
    minimumNodes requiredGib capacity =
      (gibToBytes requiredGib).toNat ⌈/⌉ (capacity.gpuMemoryGib.toNat * 2 ^ 30) := by
  rw [minimumNodes, Nat.ceilDiv_eq_add_pred_div, ← capacity.nodeBytes_eq]
  split
  · next none => rw [none, Nat.div_zero]
  · next some => rw [Nat.add_sub_assoc (Nat.pos_of_ne_zero some)]

theorem ceilDiv_eq_zero_iff {bytes perNode : Nat} :
    bytes ⌈/⌉ perNode = 0 ↔ bytes = 0 ∨ perNode = 0 := by
  rcases Nat.eq_zero_or_pos perNode with rfl | positive
  · simp only [Nat.ceilDiv_eq_add_pred_div, Nat.div_zero, or_true]
  · rw [← Nat.le_zero, ceilDiv_le_iff_le_mul positive, Nat.mul_zero, Nat.le_zero]
    omega

/-- As many nodes as the ceiling of a quotient hold what is divided, and one less does not. -/
theorem ceilDiv_covers {bytes perNode : Nat} (some : bytes ⌈/⌉ perNode ≠ 0) :
    bytes ≤ (bytes ⌈/⌉ perNode) * perNode ∧ (bytes ⌈/⌉ perNode - 1) * perNode < bytes := by
  have positive : 0 < perNode := by
    have nonzero := mt ceilDiv_eq_zero_iff.mpr some
    omega
  constructor
  · rw [Nat.mul_comm, ← ceilDiv_le_iff_le_mul positive]
  · rw [← Nat.not_le, Nat.mul_comm, ← ceilDiv_le_iff_le_mul positive]
    omega

/-! ### Lowering a count -/

section Consolidate

variable (requested : UInt32) (minimum : Nat)

theorem toNat_consolidate :
    (consolidate requested minimum).toNat =
      if minimum = 0 then requested.toNat else min requested.toNat minimum := by
  have word : requested.toNat < UInt32.size := requested.toNat_lt
  rw [consolidate]
  split
  · rfl
  · split
    · next fewer => rw [UInt32.toNat_ofNat_of_lt' (by omega), Nat.min_eq_right (by omega)]
    · next enough => rw [Nat.min_eq_left (by omega)]

theorem consolidate_le : consolidate requested minimum ≤ requested := by
  rw [UInt32.le_iff_toNat_le, toNat_consolidate]
  split <;> omega

variable {requested} in
theorem consolidate_pos (some : 1 ≤ requested) : 1 ≤ consolidate requested minimum := by
  rw [UInt32.le_iff_toNat_le] at some ⊢
  rw [toNat_consolidate]
  split
  · exact some
  · next nonzero => exact Nat.le_min.mpr ⟨some, Nat.pos_of_ne_zero nonzero⟩

theorem consolidate_consolidate :
    consolidate (consolidate requested minimum) minimum = consolidate requested minimum := by
  rw [← UInt32.toNat_inj, toNat_consolidate, toNat_consolidate]
  split <;> omega

variable {requested} in
theorem consolidate_mono {more : UInt32} (le : requested ≤ more) :
    consolidate requested minimum ≤ consolidate more minimum := by
  rw [UInt32.le_iff_toNat_le] at le ⊢
  rw [toNat_consolidate, toNat_consolidate]
  split <;> omega

/-- A count is lowered to the least number of nodes that hold what is required, if there is one. -/
theorem consolidate_minimumNodes (requiredGib : Binary64) (capacity : GpuCapacity) :
    let b := (gibToBytes requiredGib).toNat
    let c := capacity.gpuMemoryGib.toNat * 2 ^ 30
    let r := consolidate requested (minimumNodes requiredGib capacity)
    r.toNat = (if b = 0 ∨ c = 0 then requested.toNat else min requested.toNat (b ⌈/⌉ c)) ∧
      (r < requested → b ≤ r.toNat * c ∧ (r.toNat - 1) * c < b) := by
  intro b c r
  have count : r.toNat = if b ⌈/⌉ c = 0 then requested.toNat else min requested.toNat (b ⌈/⌉ c) := by
    rw [← minimumNodes_eq]
    exact toNat_consolidate requested _
  refine ⟨count.trans (if_congr ceilDiv_eq_zero_iff rfl rfl), ?_⟩
  intro lowered
  rw [UInt32.lt_iff_toNat_lt, count] at lowered
  split at lowered
  · exact (Nat.lt_irrefl _ lowered).elim
  · next some =>
    rw [count, if_neg some, Nat.min_eq_right (by omega)]
    exact ceilDiv_covers some

end Consolidate

/-! ### Estimates -/

variable (catalog : GpuCatalog) (instanceType : String)

/-- Without the name of a model nothing is looked up. -/
theorem estimateNodes_unnamed {profile : Option ModelProfile}
    (unnamed : ∀ p, profile = some p → Text.isBlankText p.modelName = true)
    (requested : Option UInt32) :
    estimateNodes catalog profile requested instanceType = .ok (requested.getD 1) := by
  cases profile with
  | none => rfl
  | some p => rw [estimateNodes, namedProfile, Option.filter_some, unnamed p rfl]; rfl

theorem estimateNodes_named {p : ModelProfile} (named : Text.isBlankText p.modelName = false)
    (requested : Option UInt32) :
    estimateNodes catalog (some p) requested instanceType =
      match catalog.get? instanceType with
      | none => .error (.gpuConfigNotFound instanceType)
      | some capacity =>
        match parseRequirement p.totalGpuMemoryRequirement with
        | .error e => .error (.invalidProfile p.modelName ("totalGpuMemoryRequirement: " ++ e.message))
        | .ok requiredGib => .ok (consolidate (requested.getD 1) (minimumNodes requiredGib capacity)) := by
  have kept : namedProfile (some p) = some p := by
    rw [namedProfile, Option.filter_some, named]
    rfl
  rw [estimateNodes, kept]
  simp only [GpuCatalog.lookup, ModelProfile.totalGpuMemoryGib]
  cases catalog.get? instanceType with
  | none => rfl
  | some capacity => cases parseRequirement p.totalGpuMemoryRequirement <;> rfl

/-- An estimate lowers whatever count is asked for to the same minimum, or always fails. -/
theorem estimateNodes_uniform (profile : Option ModelProfile) :
    (∃ minimum, ∀ requested, estimateNodes catalog profile requested instanceType =
      .ok (consolidate (requested.getD 1) minimum)) ∨
    ∃ e, ∀ requested, estimateNodes catalog profile requested instanceType = .error e := by
  by_cases unnamed : ∀ p, profile = some p → Text.isBlankText p.modelName = true
  · exact .inl ⟨0, estimateNodes_unnamed catalog instanceType unnamed⟩
  · push Not at unnamed
    obtain ⟨p, rfl, named⟩ := unnamed
    have estimates := estimateNodes_named catalog instanceType (eq_false_of_ne_true named)
    cases found : catalog.get? instanceType with
    | none => exact .inr ⟨_, fun requested => by rw [estimates, found]⟩
    | some capacity =>
        cases parsed : parseRequirement p.totalGpuMemoryRequirement with
        | error e => exact .inr ⟨_, fun requested => by rw [estimates, found, parsed]⟩
        | ok requiredGib => exact .inl ⟨_, fun requested => by rw [estimates, found, parsed]⟩

/-- What an estimate comes to. Where no model is named it is the count that is asked for. Otherwise it
fails exactly if the instance type is not catalogued or the memory requirement does not parse, in
this order, and else it is the least number of nodes that hold the model, if that is smaller. It is
never zero unless nothing is asked for, asking again with it changes nothing, and asking for more
never gets less. -/
theorem estimateNodes_exact (profile : Option ModelProfile) (requested : Option UInt32) :
    let estimate := fun requested => estimateNodes catalog profile requested instanceType
    let q := requested.getD 1
    ((∀ p, profile = some p → Text.isBlankText p.modelName = true) → estimate requested = .ok q) ∧
    (∀ p, profile = some p → Text.isBlankText p.modelName = false →
      (∀ e, estimate requested = .error e ↔
        catalog.get? instanceType = none ∧ e = .gpuConfigNotFound instanceType ∨
        ∃ capacity size, catalog.get? instanceType = some capacity ∧
          parseRequirement p.totalGpuMemoryRequirement = .error size ∧
          e = .invalidProfile p.modelName ("totalGpuMemoryRequirement: " ++ size.message)) ∧
      ∀ capacity requiredGib, catalog.get? instanceType = some capacity →
        parseRequirement p.totalGpuMemoryRequirement = .ok requiredGib →
        let b := (gibToBytes requiredGib).toNat
        let c := capacity.gpuMemoryGib.toNat * 2 ^ 30
        ∃ r, estimate requested = .ok r ∧
          r.toNat = (if b = 0 ∨ c = 0 then q.toNat else min q.toNat (b ⌈/⌉ c)) ∧
          (r < q → b ≤ r.toNat * c ∧ (r.toNat - 1) * c < b)) ∧
    ∀ r, estimate requested = .ok r →
      r ≤ q ∧ (1 ≤ q → 1 ≤ r) ∧ estimate (some r) = .ok r ∧
      ∀ more : Option UInt32, q ≤ more.getD 1 → ∃ s, estimate more = .ok s ∧ r ≤ s := by
  intro estimate q
  refine ⟨fun unnamed => estimateNodes_unnamed catalog instanceType unnamed requested, ?_, ?_⟩
  · rintro p rfl named
    have estimates : estimate requested = _ :=
      estimateNodes_named catalog instanceType named requested
    rw [estimates]
    constructor
    · intro e
      cases catalog.get? instanceType with
      | none => simp [eq_comm]
      | some capacity =>
          cases parseRequirement p.totalGpuMemoryRequirement with
          | error size => simp [eq_comm]
          | ok requiredGib => simp
    · intro capacity requiredGib found parsed b c
      rw [found, parsed]
      exact ⟨_, rfl, consolidate_minimumNodes q requiredGib capacity⟩
  · intro r estimated
    rcases estimateNodes_uniform catalog instanceType profile with ⟨minimum, all⟩ | ⟨e, all⟩
    · obtain rfl := Except.ok.inj ((all requested).symm.trans estimated)
      refine ⟨consolidate_le q minimum, consolidate_pos minimum, ?_, ?_⟩
      · exact (all _).trans (congrArg _ (consolidate_consolidate q minimum))
      · intro more le
        exact ⟨_, all more, consolidate_mono minimum le⟩
    · cases (all requested).symm.trans estimated

end NodeSupply
