import Mathlib.Tactic.Ring
import Mathlib.Tactic.Positivity
import NodeSupply.Binary64.Basic

/-! Doubles that are whole numbers. Rounding leaves alone what has at most 53 significant digits, so such
numbers of units are kept exactly and so are products and quotients that are of this kind again; whole
numbers among them stay whole. -/

namespace NodeSupply.Binary64

variable {units n i j a b den : Nat} {x y : Binary64}

theorem onGrid_of_le (few : n ≤ 2 ^ 53) : OnGrid n :=
  ⟨n, 0, by rwa [Nat.one_shiftLeft], rfl⟩

theorem one_shiftLeft_add (s t : Nat) : 1 <<< (s + t) = 1 <<< s * 1 <<< t := by
  simp only [Nat.one_shiftLeft, Nat.pow_add]

theorem onGrid_one_shiftLeft (s : Nat) : OnGrid (1 <<< s) := ⟨1, s, by omega, rfl⟩

theorem one_shiftLeft_lt {s t : Nat} (less : s < t) : 1 <<< s < 1 <<< t := by
  rw [Nat.one_shiftLeft, Nat.one_shiftLeft]
  exact Nat.pow_lt_pow_right Nat.one_lt_two less

theorem OnGrid.mul_shiftLeft (onGrid : OnGrid n) (s : Nat) : OnGrid (n * 1 <<< s) := by
  obtain ⟨digits, t, few, rfl⟩ := onGrid
  refine ⟨digits, t + s, few, ?_⟩
  rw [Nat.one_shiftLeft, ← Nat.shiftLeft_eq, Nat.shiftLeft_add]

/-! ### Rounding what needs none -/

theorem nearest_mul (positive : 0 < den) : nearest (n * den) den = n := by
  rw [nearest, Nat.mul_mod_left, Nat.mul_div_cancel n positive, if_pos (by omega)]

/-- A number on the grid has zeros where digits fall away. -/
theorem pow_dropped_dvd (onGrid : OnGrid units) (positive : 0 < den) :
    2 ^ dropped (units * den) den ∣ units := by
  rw [dropped, Nat.mul_div_cancel _ positive]
  split
  · exact one_dvd units
  · next large =>
    obtain ⟨digits, s, few, rfl⟩ := onGrid
    rw [Nat.shiftLeft_eq] at large ⊢
    rw [Nat.one_shiftLeft] at few large
    rcases Nat.lt_or_eq_of_le few with fewer | all
    · have width : (digits * 2 ^ s).log2 < 53 + s := by
        refine (Nat.log2_lt (by omega)).mpr ?_
        rw [Nat.pow_add]
        exact Nat.mul_lt_mul_of_pos_right fewer (Nat.two_pow_pos s)
      exact Nat.dvd_trans (Nat.pow_dvd_pow 2 (by omega)) (Nat.dvd_mul_left _ _)
    -- The number 2⁵³ itself has one digit more than are kept, but that one is a zero.
    · rw [all, ← Nat.pow_add, Nat.log2_two_pow]
      exact Nat.pow_dvd_pow 2 (by omega)

theorem roundUnits_of_onGrid (onGrid : OnGrid units) (positive : 0 < den) :
    roundUnits (units * den) den = units := by
  have zeros := pow_dropped_dvd onGrid positive
  rw [roundUnits]
  generalize dropped (units * den) den = d at zeros ⊢
  obtain ⟨kept, rfl⟩ := zeros
  have scaled : 2 ^ d * kept * den = kept * (den <<< d) := by
    rw [Nat.shiftLeft_eq]
    ring
  rw [scaled, nearest_mul (by rw [Nat.shiftLeft_eq]; positivity), Nat.shiftLeft_eq, Nat.mul_comm]

/-! ### Numbers of units -/

theorem one_shiftLeft_pos (s : Nat) : 0 < 1 <<< s := by
  rw [Nat.one_shiftLeft]
  exact Nat.two_pow_pos s

theorem unit_pos : 0 < unit := one_shiftLeft_pos 1074

/-- Whether a double is exactly a number of units. -/
def HasUnits (x : Binary64) (units : Nat) : Prop :=
  ∃ magnitude, x = .finite false magnitude ∧ magnitude.units = units

/-- A quotient that is a number of units of 53 digits at most is rounded to that number. -/
theorem hasUnits_ofUnits (onGrid : OnGrid units) (bounded : units < overflowUnits)
    (positive : 0 < den) : HasUnits (ofUnits false (units * den) den) units := by
  have exact : roundUnits (units * den) den = units := roundUnits_of_onGrid onGrid positive
  have inRange : roundUnits (units * den) den < overflowUnits := exact.symm ▸ bounded
  exact ⟨_, dif_pos inRange, exact⟩

theorem HasUnits.mul (first : HasUnits x a) (second : HasUnits y b)
    (product : a * b = units * unit) (onGrid : OnGrid units) (bounded : units < overflowUnits) :
    HasUnits (x * y) units := by
  obtain ⟨m, rfl, rfl⟩ := first
  obtain ⟨k, rfl, rfl⟩ := second
  change HasUnits (ofUnits false (m.units * k.units) unit) units
  rw [product]
  exact hasUnits_ofUnits onGrid bounded unit_pos

theorem HasUnits.div (first : HasUnits x a) (second : HasUnits y b) (positive : 0 < b)
    (quotient : a * unit = units * b) (onGrid : OnGrid units) (bounded : units < overflowUnits) :
    HasUnits (x / y) units := by
  obtain ⟨m, rfl, rfl⟩ := first
  obtain ⟨k, rfl, rfl⟩ := second
  change HasUnits (if k.units = 0 then _ else ofUnits false (m.units * unit) k.units) units
  rw [if_neg (Nat.pos_iff_ne_zero.mp positive), quotient]
  exact hasUnits_ofUnits onGrid bounded positive

theorem HasUnits.lt_iff (first : HasUnits x a) (second : HasUnits y b) :
    x.lt y = true ↔ a < b := by
  obtain ⟨m, rfl, rfl⟩ := first
  obtain ⟨k, rfl, rfl⟩ := second
  rw [Binary64.lt, decide_eq_true_eq]
  exact Int.ofNat_lt

theorem ofDecimal_neg (digits places : Nat) :
    ofDecimal false digits (-(places : Int)) = ofUnits false (digits * unit) (10 ^ places) := by
  cases places with
  | zero => simp [ofDecimal, ofRatio]
  | succ more =>
      rw [ofDecimal, if_neg (by omega), Int.neg_neg, Int.toNat_natCast]
      rfl

/-! ### Whole numbers -/

theorem OnGrid.mul_unit (onGrid : OnGrid n) : OnGrid (n * unit) := onGrid.mul_shiftLeft 1074

theorem overflowUnits_eq : overflowUnits = 1 <<< 1024 * unit := one_shiftLeft_add 1024 1074

theorem mul_unit_lt_overflow (small : n < 1 <<< 1024) : n * unit < overflowUnits := by
  rw [overflowUnits_eq]
  exact Nat.mul_lt_mul_of_pos_right small unit_pos

/-- Whether a double is exactly a natural number. -/
def IsWhole (x : Binary64) (n : Nat) : Prop :=
  ∃ magnitude, x = .finite false magnitude ∧ magnitude.units = n * unit

theorem IsWhole.hasUnits (whole : IsWhole x n) : HasUnits x (n * unit) := whole

/-- A natural number becomes the whole number that it is rounded to. -/
theorem isWhole_ofNat_of_rounded (rounded : roundUnits (i * unit) 1 = n * unit)
    (small : n < 1 <<< 1024) : IsWhole (ofNat i) n := by
  have bounded : roundUnits (i * unit) 1 < overflowUnits := rounded.symm ▸ mul_unit_lt_overflow small
  exact ⟨_, dif_pos bounded, rounded⟩

theorem isWhole_ofNat (onGrid : OnGrid n) (small : n < 1 <<< 1024) : IsWhole (ofNat n) n := by
  have rounded := roundUnits_of_onGrid onGrid.mul_unit Nat.one_pos
  rw [Nat.mul_one] at rounded
  exact isWhole_ofNat_of_rounded rounded small

theorem isWhole_zero : IsWhole zero 0 := isWhole_ofNat (onGrid_of_le (by omega)) (by decide)

theorem hasUnits_zero : HasUnits zero 0 := Nat.zero_mul unit ▸ isWhole_zero.hasUnits

theorem IsWhole.mul (first : IsWhole x i) (second : IsWhole y j) (onGrid : OnGrid (i * j))
    (small : i * j < 1 <<< 1024) : IsWhole (x * y) (i * j) :=
  first.hasUnits.mul second.hasUnits (by ring) onGrid.mul_unit (mul_unit_lt_overflow small)

theorem IsWhole.ceil (whole : IsWhole x n) (onGrid : OnGrid n) (small : n < 1 <<< 1024) :
    IsWhole x.ceil n := by
  obtain ⟨magnitude, rfl, units⟩ := whole
  have rounded : (magnitude.units + (unit - 1)) / unit = n := by
    have below : (unit - 1) / unit = 0 := Nat.div_eq_of_lt (Nat.sub_lt unit_pos Nat.one_pos)
    rw [units, Nat.mul_comm, Nat.mul_add_div unit_pos, below, Nat.add_zero]
  rw [Binary64.ceil, if_neg Bool.false_ne_true, rounded]
  exact isWhole_ofNat onGrid small

theorem IsWhole.toNatBelow (whole : IsWhole x n) (greatest : Nat) :
    x.toNatBelow greatest = min n greatest := by
  obtain ⟨magnitude, rfl, units⟩ := whole
  rw [Binary64.toNatBelow, if_neg Bool.false_ne_true, units, Nat.mul_div_cancel n unit_pos]

end NodeSupply.Binary64
