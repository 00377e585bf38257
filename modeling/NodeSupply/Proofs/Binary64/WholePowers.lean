import NodeSupply.Proofs.Binary64.Monotonicity

/-! Powers of whole numbers. Up to 2⁵³ a product of whole numbers is exact; beyond that it is rounded,
and may overflow, but never falls below 2⁵³ again. So a power that is made by squaring is the exact one
as long as that is small, and tells that it is large otherwise. -/

namespace NodeSupply.Binary64

variable {units n i j a b : Nat} {x y result base : Binary64}

/-- Whether a double stands for a whole number: it is that number up to 2⁵³, and it is not below 2⁵³
where the number is beyond. -/
structure StandsFor (x : Binary64) (n : Nat) : Prop where
  exact : n ≤ 2 ^ 53 → IsWhole x n
  reached : AtLeast x (min n (2 ^ 53) * unit)

theorem IsWhole.atLeast (whole : IsWhole x n) : AtLeast x (n * unit) := by
  obtain ⟨_, rfl, units⟩ := whole
  exact units.ge

theorem IsWhole.atLeast_of_below (whole : IsWhole x n) (below : Below x y) :
    AtLeast y (n * unit) := below _ whole.atLeast

theorem IsWhole.standsFor (whole : IsWhole x n) : StandsFor x n := by
  refine ⟨fun _ => whole, ?_⟩
  exact whole.atLeast.of_le (Nat.mul_le_mul_right unit (Nat.min_le_left n _))

theorem onGrid_limit : OnGrid (2 ^ 53 * unit) := (onGrid_of_le (Nat.le_refl _)).mul_unit

theorem limit_le_overflow : 2 ^ 53 * unit ≤ overflowUnits :=
  Nat.le_of_lt (mul_unit_lt_overflow (by decide))

/-- Every natural number becomes a double that stands for it, however it is rounded. -/
theorem standsFor_ofNat (n : Nat) : StandsFor (ofNat n) n := by
  by_cases few : n ≤ 2 ^ 53
  · refine (isWhole_ofNat (onGrid_of_le few) ?_).standsFor
    exact Nat.lt_of_le_of_lt few (by decide)
  · have many : 2 ^ 53 ≤ n := Nat.le_of_not_le few
    refine ⟨fun small => (few small).elim, ?_⟩
    rw [Nat.min_eq_right many]
    have limit : IsWhole (ofNat (2 ^ 53)) (2 ^ 53) :=
      isWhole_ofNat (onGrid_of_le (Nat.le_refl _)) (by decide)
    exact limit.atLeast_of_below (below_ofNat many)

/-! ### Products -/

theorem atLeast_ofUnits_of_le {num den : Nat} (positive : 0 < den) (enough : units * den ≤ num)
    (onGrid : OnGrid units) (bounded : units ≤ overflowUnits) :
    AtLeast (ofUnits false num den) units := by
  rw [atLeast_ofUnits_iff bounded, ← roundUnits_of_onGrid onGrid positive]
  exact roundUnits_mono positive positive (Nat.mul_le_mul_right den enough)

/-- A product of numbers that have no sign reaches what the product of their bounds reaches. -/
theorem AtLeast.mul (first : AtLeast x a) (second : AtLeast y b) (positive : 0 < a)
    (positive' : 0 < b) (enough : units * unit ≤ a * b) (onGrid : OnGrid units)
    (bounded : units ≤ overflowUnits) : AtLeast (x * y) units := by
  match x, y with
  | .nan, _ | .infinite true, _ | .finite true _, _ => exact first.elim
  | _, .nan | _, .infinite true | _, .finite true _ => exact second.elim
  | .infinite false, .infinite false => trivial
  | .infinite false, .finite false k =>
    rw [infinite_mul (y := .finite false k) ⟨k, rfl, rfl⟩ (Nat.lt_of_lt_of_le positive' second)]
    trivial
  | .finite false m, .infinite false =>
    change AtLeast (if m.units = 0 then nan else infinite (false ^^ false)) units
    rw [if_neg (Nat.lt_of_lt_of_le positive first).ne']
    trivial
  | .finite false m, .finite false k =>
    change AtLeast (ofUnits false (m.units * k.units) unit) units
    refine atLeast_ofUnits_of_le unit_pos ?_ onGrid bounded
    exact Nat.le_trans enough (Nat.mul_le_mul first second)

theorem limit_le_min_mul_min (positive : 0 < i) (positive' : 0 < j) (many : 2 ^ 53 ≤ i * j) :
    2 ^ 53 ≤ min i (2 ^ 53) * min j (2 ^ 53) := by
  rcases Nat.le_total i (2 ^ 53) with few | most
  · rw [Nat.min_eq_left few]
    rcases Nat.le_total j (2 ^ 53) with few' | most'
    · rwa [Nat.min_eq_left few']
    · rw [Nat.min_eq_right most']
      exact Nat.le_mul_of_pos_left _ positive
  · rw [Nat.min_eq_right most]
    exact Nat.le_mul_of_pos_right _ (Nat.lt_min.mpr ⟨positive', by decide⟩)

theorem StandsFor.mul (first : StandsFor x i) (second : StandsFor y j) (positive : 0 < i)
    (positive' : 0 < j) : StandsFor (x * y) (i * j) := by
  by_cases few : i * j ≤ 2 ^ 53
  · have left : IsWhole x i :=
      first.exact (Nat.le_trans (Nat.le_mul_of_pos_right i positive') few)
    have right : IsWhole y j :=
      second.exact (Nat.le_trans (Nat.le_mul_of_pos_left j positive) few)
    refine (left.mul right (onGrid_of_le few) ?_).standsFor
    exact Nat.lt_of_le_of_lt few (by decide)
  · have many : 2 ^ 53 ≤ i * j := Nat.le_of_not_le few
    refine ⟨fun small => (few small).elim, ?_⟩
    rw [Nat.min_eq_right many]
    have bound (k : Nat) (some : 0 < k) : 0 < min k (2 ^ 53) * unit :=
      Nat.mul_pos (Nat.lt_min.mpr ⟨some, by decide⟩) unit_pos
    refine first.reached.mul second.reached (bound i positive) (bound j positive') ?_ onGrid_limit
      limit_le_overflow
    calc
      2 ^ 53 * unit * unit ≤ min i (2 ^ 53) * min j (2 ^ 53) * unit * unit := by
        refine Nat.mul_le_mul_right unit (Nat.mul_le_mul_right unit ?_)
        exact limit_le_min_mul_min positive positive' many
      _ = min i (2 ^ 53) * unit * (min j (2 ^ 53) * unit) := by ring

/-! ### Powers -/

/-- Squaring keeps what the result comes to: its factor, times the base to the digits that are left. -/
theorem StandsFor.powFrom {fuel : Nat} (first : StandsFor result i) (second : StandsFor base j)
    (positive : 0 < i) (positive' : 0 < j) (digits : n < 2 ^ fuel) :
    StandsFor (powFrom fuel result base n) (i * j ^ n) := by
  induction fuel generalizing result base i j n with
  | zero =>
      have none : n = 0 := by omega
      subst none
      rw [Nat.pow_zero, Nat.mul_one]
      exact first
  | succ fuel ih =>
      rw [Binary64.powFrom]
      have taken : StandsFor (if n % 2 = 1 then result * base else result) (i * j ^ (n % 2)) := by
        rcases Nat.mod_two_eq_zero_or_one n with even | odd
        · simp only [even, Nat.zero_ne_one, if_false, Nat.pow_zero, Nat.mul_one]
          exact first
        · simp only [odd, if_true, Nat.pow_one]
          exact first.mul second positive positive'
      split
      · next last =>
        have only : n % 2 = n := by omega
        rw [only] at taken ⊢
        exact taken
      · have rest := ih taken (second.mul second positive' positive')
          (Nat.mul_pos positive (Nat.pow_pos positive')) (Nat.mul_pos positive' positive')
          (n := n / 2) (by omega)
        have split : i * j ^ (n % 2) * (j * j) ^ (n / 2) = i * j ^ n := by
          rw [← Nat.pow_two, ← Nat.pow_mul, Nat.mul_assoc, ← Nat.pow_add, Nat.mod_add_div]
        rwa [split] at rest

theorem StandsFor.pow (stands : StandsFor base j) (positive : 0 < j) (n : Nat) :
    StandsFor (base.pow n) (j ^ n) := by
  have power := (standsFor_ofNat 1).powFrom stands Nat.one_pos positive (Nat.lt_log2_self (n := n))
  rwa [Nat.one_mul] at power

end NodeSupply.Binary64
