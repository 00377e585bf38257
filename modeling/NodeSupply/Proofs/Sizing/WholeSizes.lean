import NodeSupply.Proofs.Sizing.NodeCount
import NodeSupply.Proofs.Sizing.SizeGrammar

/-! Whole sizes. A whole number of mebi-, gibi- or tebibytes is read and turned into bytes without any
rounding, up to the very limit of sizes. So the nodes that hold it are counted as whole numbers are, by
a ceiling or by taking away the memory of one node after the other. -/

namespace NodeSupply

open Binary64

namespace SizeUnit

/-- The power of two that a unit has as many bytes as. -/
def exponent : SizeUnit → Nat
  | .tebi => 40
  | .gibi => 30
  | .mebi => 20

def bytes (unit : SizeUnit) : Nat := 1 <<< unit.exponent

/-- A unit as it is written behind a number. -/
def suffix : SizeUnit → String
  | .tebi => "Ti"
  | .gibi => "Gi"
  | .mebi => "Mi"

theorem hasUnits_gib (unit : SizeUnit) : HasUnits unit.gib (1 <<< (unit.exponent + 1044)) := by
  have one : IsWhole (.ofNat 1) (1 <<< 0) := isWhole_ofNat (onGrid_of_le (by omega)) (by omega)
  have kibi : IsWhole (.ofNat 1024) (1 <<< 10) := isWhole_ofNat (onGrid_of_le (by omega)) (by omega)
  cases unit with
  | tebi => exact (one_shiftLeft_add 10 1074).symm ▸ kibi.hasUnits
  | gibi => exact (one_shiftLeft_add 0 1074).symm ▸ one.hasUnits
  | mebi =>
      -- A mebibyte is the only unit that is no whole number of gibibytes.
      have scaled : 1 <<< 0 * Binary64.unit = 1 <<< 1064 * 1 <<< 10 :=
        (one_shiftLeft_add 0 1074).symm.trans (one_shiftLeft_add 1064 10)
      refine one.hasUnits.div kibi.hasUnits (Nat.mul_pos (by omega) unit_pos) ?_ ?_ ?_
      · rw [scaled, Nat.mul_assoc]
        rfl
      · exact onGrid_one_shiftLeft 1064
      · exact one_shiftLeft_lt (show 1064 < 2098 by omega)

end SizeUnit

/-! ### Reading -/

/-- A whole number of a unit, as a text that was taken apart. -/
def wholeSize (n : Nat) (unit : SizeUnit) : SizeText := ⟨Nat.toDigits 10 n, none, unit⟩

/-- The limit of sizes is no double, and counts as the next greater one. -/
theorem isWhole_greatestSizeBytes : IsWhole greatestSizeBytes (1 <<< 63) := by
  have rounded : roundUnits (((1 <<< 63) - 1) * Binary64.unit) 1 = 1 <<< 63 * Binary64.unit := by
    decide +kernel
  exact isWhole_ofNat_of_rounded rounded (by decide)

section WholeSize

variable (n : Nat) (unit : SizeUnit)

theorem ofChars?_wholeSize :
    SizeText.ofChars? (Text.trimChars (toString n ++ unit.suffix).toList) =
      some (wholeSize n unit) := by
  have decimal : ∀ c ∈ Nat.toDigits 10 n, c.isDigit = true :=
    fun c member => Nat.isDigit_of_mem_toDigits (by decide) (by decide) member
  have letters : ∀ c ∈ unit.suffix.toList, Text.isBlank c = false := by
    cases unit <;> simp [SizeUnit.suffix, Text.isBlank]
  have unblank : ∀ c ∈ Nat.toDigits 10 n ++ unit.suffix.toList, Text.isBlank c = false := by
    intro c member
    rcases List.mem_append.mp member with digit | letter
    · exact Text.isBlank_of_isDigit (decimal c digit)
    · exact letters c letter
  have chars : (toString n ++ unit.suffix).toList = Nat.toDigits 10 n ++ unit.suffix.toList := by
    rw [String.toList_append]
    exact congrArg (· ++ _) Nat.toList_repr
  rw [chars, Text.trimChars_of_unblank unblank]
  refine SizeText.ofChars?_whole ⟨Nat.toDigits_ne_nil, decimal⟩ ?_
  cases unit <;> decide

theorem number_wholeSize : (wholeSize n unit).number = .ofNat n := by
  have value : SizeText.digitsValue (Nat.toDigits 10 n) = n := Nat.ofDigitChars_ten_toDigits
  simp [SizeText.number, wholeSize, value, ofDecimal, ofNat]

variable {n unit} (few : n ≤ 2 ^ 53) (fits : n * unit.bytes ≤ 1 <<< 63)

include fits in
theorem wholeUnits_lt : n * 1 <<< (unit.exponent + 1044) < overflowUnits := by
  rw [one_shiftLeft_add, ← Nat.mul_assoc]
  refine Nat.lt_of_le_of_lt (Nat.mul_le_mul_right _ fits) ?_
  rw [← one_shiftLeft_add]
  exact one_shiftLeft_lt (show 1107 < 2098 by omega)

include few fits

theorem hasUnits_wholeSize :
    HasUnits (wholeSize n unit).gib (n * 1 <<< (unit.exponent + 1044)) := by
  have onGrid : OnGrid n := onGrid_of_le few
  have whole : IsWhole (wholeSize n unit).number n := by
    rw [number_wholeSize]
    exact isWhole_ofNat onGrid (Nat.lt_of_le_of_lt few (by decide))
  exact whole.hasUnits.mul unit.hasUnits_gib (by ring) (onGrid.mul_shiftLeft _) (wholeUnits_lt fits)

/-- The bytes of a whole size are computed without rounding. -/
theorem isWhole_wholeSize_bytes :
    IsWhole ((wholeSize n unit).gib * bytesPerGib) (n * unit.bytes) := by
  have product : n * 1 <<< (unit.exponent + 1044) * (1 <<< 30 * Binary64.unit) =
      n * unit.bytes * Binary64.unit * Binary64.unit := by
    have inverse : Binary64.unit = 1 <<< 1044 * 1 <<< 30 := one_shiftLeft_add 1044 30
    rw [one_shiftLeft_add, SizeUnit.bytes]
    calc
      n * (1 <<< unit.exponent * 1 <<< 1044) * (1 <<< 30 * Binary64.unit) =
          n * 1 <<< unit.exponent * (1 <<< 1044 * 1 <<< 30) * Binary64.unit := by ring
      _ = _ := by rw [← inverse]
  have onGrid : OnGrid (n * unit.bytes) := (onGrid_of_le few).mul_shiftLeft _
  have small : n * unit.bytes < 1 <<< 1024 := Nat.lt_of_le_of_lt fits (one_shiftLeft_lt (by omega))
  exact (hasUnits_wholeSize few fits).mul isWhole_bytesPerGib.hasUnits product onGrid.mul_unit
    (mul_unit_lt_overflow small)

theorem toNat_gibToBytes_wholeSize :
    (gibToBytes (wholeSize n unit).gib).toNat = n * unit.bytes := by
  have onGrid : OnGrid (n * unit.bytes) := (onGrid_of_le few).mul_shiftLeft _
  have small : n * unit.bytes < 1 <<< 1024 := Nat.lt_of_le_of_lt fits (one_shiftLeft_lt (by omega))
  have word : n * unit.bytes ≤ UInt64.size - 1 := Nat.le_trans fits (by decide)
  rw [gibToBytes, ((isWhole_wholeSize_bytes few fits).ceil onGrid small).toNatBelow,
    Nat.min_eq_left word]
  exact UInt64.toNat_ofNat_of_lt' (Nat.lt_of_le_of_lt word (by decide))

theorem parseRequirement_wholeSize :
    parseRequirement (toString n ++ unit.suffix) = .ok (wholeSize n unit).gib := by
  have notNegative : ¬ (wholeSize n unit).gib.lt .zero = true := by
    rw [(hasUnits_wholeSize few fits).lt_iff isWhole_zero.hasUnits]
    omega
  have notTooLarge : ¬ greatestSizeBytes.lt ((wholeSize n unit).gib * bytesPerGib) = true := by
    rw [isWhole_greatestSizeBytes.hasUnits.lt_iff (isWhole_wholeSize_bytes few fits).hasUnits,
      Nat.not_lt]
    exact Nat.mul_le_mul_right _ fits
  rw [parseRequirement, readSize, ofChars?_wholeSize]
  simp [outOfSizeRange, notNegative, notTooLarge]

end WholeSize

/-! ### Counting nodes -/

/-- How often a step can be subtracted from an amount before the amount is no longer positive. -/
def timesSubtracted (step : Nat) (amount : Int) : Nat :=
  if 0 < amount ∧ 0 < step then timesSubtracted step (amount - step) + 1 else 0
termination_by amount.toNat
decreasing_by omega

theorem timesSubtracted_eq {step : Nat} (positive : 0 < step) (amount : Int) :
    timesSubtracted step amount = amount.toNat ⌈/⌉ step := by
  induction amount using timesSubtracted.induct step with
  | case1 amount more ih =>
      rw [timesSubtracted, if_pos more, ih]
      -- One round more or less on both sides of the bound on the rounds.
      refine eq_of_forall_ge_iff fun rounds => ?_
      rw [ceilDiv_le_iff_le_mul positive]
      cases rounds with
      | zero => omega
      | succ rounds =>
          rw [Nat.add_le_add_iff_right, ceilDiv_le_iff_le_mul positive, Nat.mul_succ]
          omega
  | case2 amount done =>
      rw [timesSubtracted, if_neg done]
      have spent : amount.toNat = 0 := by omega
      rw [spent, zero_ceilDiv]

/-- A whole number of a unit, of 53 binary digits at most and not beyond 2⁶³ bytes, is read exactly: it
comes to just as many bytes, and so many nodes are needed for it as the ceiling of its quotient by the
memory of a node says, or the rounds in which this memory can be taken away from it. -/
theorem whole_size_exact {n : Nat} {unit : SizeUnit} (few : n ≤ 2 ^ 53)
    (fits : n * unit.bytes ≤ 2 ^ 63) :
    ∃ g, parseRequirement (toString n ++ unit.suffix) = .ok g ∧
      (gibToBytes g).toNat = n * unit.bytes ∧
      ∀ capacity : GpuCapacity, 1 ≤ capacity.gpuMemoryGib →
        let perNode := capacity.gpuMemoryGib.toNat * 2 ^ 30
        minimumNodes g capacity = (n * unit.bytes) ⌈/⌉ perNode ∧
          minimumNodes g capacity = timesSubtracted perNode (n * unit.bytes : Nat) := by
  have bytes := toNat_gibToBytes_wholeSize few fits
  refine ⟨_, parseRequirement_wholeSize few fits, bytes, ?_⟩
  intro capacity some perNode
  have positive : 0 < perNode := Nat.mul_pos (UInt32.le_iff_toNat_le.mp some) (by omega)
  have counted : minimumNodes (wholeSize n unit).gib capacity = (n * unit.bytes) ⌈/⌉ perNode := by
    rw [minimumNodes_eq, bytes]
  refine ⟨counted, ?_⟩
  rw [counted, timesSubtracted_eq positive, Int.toNat_natCast]

/-- The greatest size there is, in the smallest unit, on nodes of 80 GiB. -/
theorem whole_size_exact_at_limit :
    (8796093022208 : Nat) ≤ 2 ^ 53 ∧ 8796093022208 * SizeUnit.mebi.bytes ≤ 2 ^ 63 ∧
      ∃ g, parseRequirement "8796093022208Mi" = .ok g ∧ (gibToBytes g).toNat = 2 ^ 63 ∧
        minimumNodes g ⟨"Standard_NC24ads_A100_v4", 1, 80, "NVIDIA A100", false⟩ = 107374183 := by
  have few : (8796093022208 : Nat) ≤ 2 ^ 53 := by decide
  have fits : 8796093022208 * SizeUnit.mebi.bytes ≤ 2 ^ 63 := by decide
  obtain ⟨g, parsed, bytes, nodes⟩ := whole_size_exact few fits
  have counted := (nodes ⟨"Standard_NC24ads_A100_v4", 1, 80, "NVIDIA A100", false⟩ (by decide)).1
  exact ⟨few, fits, g, parsed, bytes, counted⟩

end NodeSupply
