import Mathlib.Algebra.Order.Field.Basic
import Mathlib.Algebra.Order.Field.Rat
import Mathlib.Data.Nat.Dist
import Mathlib.Tactic.FieldSimp
import NodeSupply.Proofs.Binary64.RoundingOrder

/-! What rounding arrives at is nearest. No number with 53 significant digits lies nearer to a quotient than
the one it is rounded to; so a double read from a decimal is the nearest there is. -/

namespace NodeSupply.Binary64

variable {num den n : Nat}

theorem dist_nearest_le (num : Nat) (positive : 0 < den) (k : Nat) :
    Nat.dist (nearest num den * den) num ≤ Nat.dist (k * den) num := by
  have divided : num / den * den + num % den = num := Nat.div_add_mod' num den
  have remainder : num % den < den := Nat.mod_lt num positive
  simp only [nearest, Nat.dist]
  generalize num / den = q, num % den = r at divided remainder
  subst divided
  have next : (q + 1) * den = q * den + den := Nat.succ_mul q den
  rcases Nat.lt_or_ge q k with more | less
  · have product : (q + 1) * den ≤ k * den := Nat.mul_le_mul_right den more
    split <;> [skip; split <;> [skip; split]] <;> omega
  · have product : k * den ≤ q * den := Nat.mul_le_mul_right den less
    split <;> [skip; split <;> [skip; split]] <;> omega

theorem dist_roundUnits_le (positive : 0 < den) (onGrid : OnGrid n) :
    Nat.dist (roundUnits num den * den) num ≤ Nat.dist (n * den) num := by
  obtain ⟨digits, s, few, rfl⟩ := onGrid
  have below : dropped num den ≠ 0 → _ := le_of_dropped
  rw [roundUnits, Nat.shiftLeft_eq, Nat.shiftLeft_eq, Nat.shiftLeft_eq]
  rw [Nat.one_shiftLeft] at few
  generalize dropped num den = d at below
  have wide : 0 < den * 2 ^ d := Nat.mul_pos positive (Nat.two_pow_pos d)
  have moved (k : Nat) : k * 2 ^ d * den = k * (den * 2 ^ d) := by ring
  rw [moved]
  rcases Nat.lt_or_ge s d with lower | higher
  -- A number with digits that are dropped lies below 2⁵² places, and the quotient does not.
  · have large : 2 ^ 52 * (den * 2 ^ d) ≤ num := below (by omega)
    have small : digits * 2 ^ s * den ≤ 2 ^ 52 * (den * 2 ^ d) := by
      have place := two_mul_le_place (2 ^ 52) lower
      have greatest := Nat.mul_le_mul_right (2 ^ s) few
      rw [← moved]
      exact Nat.mul_le_mul_right den (by omega)
    have nearer := dist_nearest_le num wide (2 ^ 52)
    simp only [Nat.dist] at nearer ⊢
    omega
  · obtain ⟨k, rfl⟩ := Nat.exists_eq_add_of_le' higher
    rw [Nat.pow_add, ← Nat.mul_assoc digits, moved]
    exact dist_nearest_le num wide _

theorem cast_dist (a b : Nat) : (Nat.dist a b : ℚ) = |(a : ℚ) - b| := by
  rcases Nat.le_total a b with below | above
  · have ordered : (a : ℚ) ≤ b := by exact_mod_cast below
    rw [Nat.dist_eq_sub_of_le below, Nat.cast_sub below, abs_sub_comm,
      abs_of_nonneg (sub_nonneg.mpr ordered)]
  · have ordered : (b : ℚ) ≤ a := by exact_mod_cast above
    rw [Nat.dist_eq_sub_of_le_right above, Nat.cast_sub above,
      abs_of_nonneg (sub_nonneg.mpr ordered)]

/-- Whether a double is nearest to a rational number: none of the numbers with 53 significant digits is
nearer. Infinity stands for those of them that are too large for a double. -/
inductive Nearest (q : ℚ) : Binary64 → Prop
  | finite {magnitude : Magnitude}
      (near : ∀ n, OnGrid n → |(magnitude.units : ℚ) / unit - q| ≤ |(n : ℚ) / unit - q|) :
      Nearest q (.finite false magnitude)
  | infinite {units : Nat} (onGrid : OnGrid units) (large : overflowUnits ≤ units)
      (near : ∀ n, OnGrid n → |(units : ℚ) / unit - q| ≤ |(n : ℚ) / unit - q|) :
      Nearest q (.infinite false)

theorem nearest_ofRatio (num : Nat) (positive : 0 < den) :
    Nearest ((num : ℚ) / den) (ofRatio false num den) := by
  have near : ∀ n, OnGrid n →
      |(roundUnits (num * unit) den : ℚ) / unit - num / den| ≤ |(n : ℚ) / unit - num / den| := by
    intro n onGrid
    have divisor : (0 : ℚ) < den := by exact_mod_cast positive
    have grid : (0 : ℚ) < unit := by exact_mod_cast unit_pos
    have distance (k : Nat) : |(k : ℚ) / unit - num / den| =
        (Nat.dist (k * den) (num * unit) : ℚ) / (unit * den) := by
      rw [div_sub_div _ _ grid.ne' divisor.ne', abs_div, abs_of_pos (mul_pos grid divisor), cast_dist,
        Nat.cast_mul, Nat.cast_mul, mul_comm (unit : ℚ)]
    rw [distance, distance, div_le_div_iff_of_pos_right (mul_pos grid divisor)]
    exact_mod_cast dist_roundUnits_le positive onGrid
  rw [ofRatio, ofUnits]
  split
  · exact .finite near
  · next overflow => exact .infinite (onGrid_roundUnits _ _) (Nat.not_lt.mp overflow) near

end NodeSupply.Binary64
