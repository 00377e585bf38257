/-!
Rounding a quotient of natural numbers to the nearest number with at most 53 significant binary
digits. Ties go to the even neighbour. Magnitudes are counted in units of 2⁻¹⁰⁷⁴, the least
positive double, so below 2⁵³ units every whole number of units is kept.
-/

namespace NodeSupply.Binary64

/-- The whole number nearest to a quotient, the even one of two equally near. -/
def nearest (num den : Nat) : Nat :=
  let q := num / den
  let r := num % den
  if 2 * r < den then q
  else if den < 2 * r then q + 1
  else if q % 2 = 0 then q else q + 1

/-- How many binary digits fall away below the 53 that are kept. -/
def dropped (num den : Nat) : Nat :=
  let q := num / den
  if q < 1 <<< 53 then 0 else q.log2 - 52

/-- The number nearest to a quotient among those with at most 53 significant binary digits. -/
def roundUnits (num den : Nat) : Nat :=
  nearest num (den <<< dropped num den) <<< dropped num den

/-- One more than the greatest magnitude of a finite double, rounded up to a power of two. -/
def overflowUnits : Nat := 1 <<< 2098

/-- A magnitude with at most 53 significant binary digits. -/
def OnGrid (units : Nat) : Prop :=
  ∃ m s, m ≤ 1 <<< 53 ∧ units = m <<< s

theorem nearest_le_succ (num den : Nat) : nearest num den ≤ num / den + 1 := by
  simp only [nearest]
  split
  · omega
  · split
    · omega
    · split <;> omega

theorem div_le_nearest (num den : Nat) : num / den ≤ nearest num den := by
  simp only [nearest]
  split
  · omega
  · split
    · omega
    · split <;> omega

theorem dropped_quotient_lt (num den : Nat) : num / (den <<< dropped num den) < 1 <<< 53 := by
  rw [Nat.shiftLeft_eq, Nat.one_shiftLeft, ← Nat.div_div_eq_div_mul]
  simp only [dropped]
  generalize num / den = q
  split
  · simpa using ‹_›
  · next large =>
    have nonzero : q ≠ 0 := by omega
    have width : 52 ≤ q.log2 := by
      have := (Nat.le_log2 nonzero (k := 53)).mpr (by omega)
      omega
    rw [Nat.div_lt_iff_lt_mul (Nat.two_pow_pos _), ← Nat.pow_add,
      show 53 + (q.log2 - 52) = q.log2 + 1 by omega]
    exact Nat.lt_log2_self

theorem onGrid_roundUnits (num den : Nat) : OnGrid (roundUnits num den) :=
  ⟨_, _, by
    have := nearest_le_succ num (den <<< dropped num den)
    have := dropped_quotient_lt num den
    omega, rfl⟩

end NodeSupply.Binary64
