import Mathlib.Algebra.Order.Floor.Div
import Mathlib.GroupTheory.GroupAction.Ring
import NodeSupply.Proofs.Binary64.WholeNumbers

/-! From where on rounding arrives at a number. A quotient is rounded to a number of 53 digits, or beyond
it, just when it lies at most half a last place below; so a bound on a double is a bound on what was
rounded, and a product with a power of two only moves its places. -/

namespace NodeSupply.Binary64

variable {units num den bound n s t i : Nat} {x y : Binary64}

/-! ### Whole numbers -/

/-- Whether a quotient is at most one half below a whole number, or less than one half if that number
is odd. -/
def Reaches (num den n : Nat) : Prop :=
  2 * (n * den) < 2 * num + den ∨ n % 2 = 0 ∧ 2 * (n * den) = 2 * num + den

theorem le_nearest_iff (positive : 0 < den) : n ≤ nearest num den ↔ Reaches num den n := by
  have divided : num / den * den + num % den = num := Nat.div_add_mod' num den
  have remainder : num % den < den := Nat.mod_lt num positive
  simp only [nearest, Reaches]
  generalize num / den = q, num % den = r at divided remainder
  subst divided
  rcases Nat.lt_trichotomy n (q + 1) with below | rfl | above
  · have product : n * den ≤ q * den := Nat.mul_le_mul_right den (Nat.le_of_lt_succ below)
    split <;> [skip; split <;> [skip; split]] <;> omega
  -- Only the number that follows the quotient is decided by the remainder.
  · rw [Nat.succ_mul q den]
    split <;> [skip; split <;> [skip; split]] <;> omega
  · have product : (q + 2) * den ≤ n * den := Nat.mul_le_mul_right den above
    rw [Nat.add_mul] at product
    split <;> [skip; split <;> [skip; split]] <;> omega

theorem reaches_mul_iff (positive : 0 < i) :
    Reaches (num * i) (den * i) n ↔ Reaches num den n := by
  have left : 2 * (n * (den * i)) = 2 * (n * den) * i := by ring
  have right : 2 * (num * i) + den * i = (2 * num + den) * i := by ring
  rw [Reaches, left, right, Nat.mul_lt_mul_right positive, Nat.mul_left_inj positive.ne']
  rfl

/-! ### Digits that fall away -/

theorem lt_of_dropped (num : Nat) (positive : 0 < den) :
    num < 2 ^ 53 * (den * 2 ^ dropped num den) := by
  have quotient := dropped_quotient_lt num den
  rwa [Nat.shiftLeft_eq, Nat.one_shiftLeft,
    Nat.div_lt_iff_lt_mul (Nat.mul_pos positive (Nat.two_pow_pos _))] at quotient

theorem le_of_dropped (some : dropped num den ≠ 0) :
    2 ^ 52 * (den * 2 ^ dropped num den) ≤ num := by
  revert some
  rw [dropped]
  generalize quotient : num / den = q
  split
  · exact fun none => (none rfl).elim
  · next large =>
    intro _
    have nonzero : q ≠ 0 := by omega
    have width : 2 ^ 52 * 2 ^ (q.log2 - 52) ≤ q := by
      have wide : 53 ≤ q.log2 := (Nat.le_log2 nonzero).mpr (by omega)
      rw [← Nat.pow_add, show 52 + (q.log2 - 52) = q.log2 by omega]
      exact Nat.log2_self_le nonzero
    calc
      2 ^ 52 * (den * 2 ^ (q.log2 - 52)) = 2 ^ 52 * 2 ^ (q.log2 - 52) * den := by ring
      _ ≤ q * den := Nat.mul_le_mul_right den width
      _ ≤ num := quotient ▸ Nat.div_mul_le_self num den

theorem two_mul_le_place (k : Nat) (less : s < t) : 2 * (k * 2 ^ s) ≤ k * 2 ^ t := by
  calc
    2 * (k * 2 ^ s) = k * 2 ^ (s + 1) := by ring
    _ ≤ k * 2 ^ t := Nat.mul_le_mul_left k (Nat.pow_le_pow_right Nat.two_pos less)

/-- Rounding arrives at a number of 53 digits, the last of them at a given place, from half a place
below. A power of two is to be written as 2⁵³ at a lower place, since the doubles below it lie closer. -/
theorem le_roundUnits_iff (positive : 0 < den) (few : n ≤ 2 ^ 53) (full : 2 ^ 52 < n ∨ s = 0) :
    n * 2 ^ s ≤ roundUnits num den ↔ Reaches num (den * 2 ^ s) n := by
  have above := lt_of_dropped num positive
  have below : dropped num den ≠ 0 → _ := le_of_dropped
  have wide (place : Nat) : 0 < den * 2 ^ place := Nat.mul_pos positive (Nat.two_pow_pos place)
  rw [roundUnits, Nat.shiftLeft_eq, Nat.shiftLeft_eq]
  generalize dropped num den = d at above below
  rcases Nat.lt_trichotomy d s with fewer | rfl | more
  -- The quotient has too few digits to be rounded to the number.
  · have large : 2 ^ 52 < n := full.resolve_right (by omega)
    have rounded : nearest num (den * 2 ^ d) ≤ 2 ^ 53 := by
      refine Nat.le_trans (nearest_le_succ num _) ?_
      exact (Nat.div_lt_iff_lt_mul (wide d)).mpr above
    have short : nearest num (den * 2 ^ d) * 2 ^ d < n * 2 ^ s := by
      have place := two_mul_le_place (2 ^ 52) fewer
      have least := Nat.mul_lt_mul_of_pos_right large (Nat.two_pow_pos s)
      have greatest := Nat.mul_le_mul_right (2 ^ d) rounded
      omega
    refine iff_of_false (Nat.not_le.mpr short) ?_
    have place := two_mul_le_place den fewer
    have least : (2 ^ 52 + 1) * (den * 2 ^ s) ≤ n * (den * 2 ^ s) := Nat.mul_le_mul_right _ large
    rw [Reaches]
    omega
  · rw [Nat.mul_le_mul_right_iff (Nat.two_pow_pos d)]
    exact le_nearest_iff (wide d)
  -- The quotient has more digits, so that it lies above the number.
  · have large : 2 ^ 52 * (den * 2 ^ d) ≤ num := below (by omega)
    have rounded : 2 ^ 52 ≤ nearest num (den * 2 ^ d) := by
      refine Nat.le_trans ?_ (div_le_nearest num _)
      exact (Nat.le_div_iff_mul_le (wide d)).mpr large
    have reached : n * 2 ^ s ≤ nearest num (den * 2 ^ d) * 2 ^ d := by
      have place := two_mul_le_place (2 ^ 52) more
      have greatest := Nat.mul_le_mul_right (2 ^ s) few
      have least := Nat.mul_le_mul_right (2 ^ d) rounded
      omega
    refine iff_of_true reached (.inl ?_)
    have place := two_mul_le_place den more
    have greatest : n * (den * 2 ^ s) ≤ 2 ^ 53 * (den * 2 ^ s) := Nat.mul_le_mul_right _ few
    have some := wide s
    omega

/-! ### Numbers on the grid -/

/-- Between a number of 53 digits and the next one there is no other. -/
theorem OnGrid.succ_le (onGrid : OnGrid units) (full : 2 ^ 52 ≤ n) (more : n * 2 ^ s < units) :
    (n + 1) * 2 ^ s ≤ units := by
  obtain ⟨digits, t, few, rfl⟩ := onGrid
  rw [Nat.one_shiftLeft] at few
  rw [Nat.shiftLeft_eq] at more ⊢
  rcases Nat.lt_or_ge t s with lower | higher
  · exfalso
    have place := two_mul_le_place (2 ^ 52) lower
    have greatest := Nat.mul_le_mul_right (2 ^ t) few
    have least := Nat.mul_le_mul_right (2 ^ s) full
    omega
  · obtain ⟨k, rfl⟩ := Nat.exists_eq_add_of_le' higher
    rw [Nat.pow_add, ← Nat.mul_assoc] at more ⊢
    exact Nat.mul_le_mul_right _ (Nat.lt_of_mul_lt_mul_right more)

theorem OnGrid.le_pred (onGrid : OnGrid units) (full : 2 ^ 52 < n) (fewer : units < n * 2 ^ s) :
    units ≤ (n - 1) * 2 ^ s := by
  by_contra more
  have passed := onGrid.succ_le (Nat.le_sub_one_of_lt full) (Nat.not_le.mp more)
  rw [Nat.sub_add_cancel (by omega)] at passed
  exact Nat.not_le.mpr fewer passed

theorem le_units_iff (onGrid : OnGrid units) (few : n ≤ 2 ^ 53) (full : 2 ^ 52 < n ∨ s = 0) :
    n * 2 ^ s ≤ units ↔ Reaches units (2 ^ s) n := by
  have kept := roundUnits_of_onGrid onGrid Nat.one_pos
  rw [Nat.mul_one] at kept
  conv_lhs => rw [← kept]
  rw [le_roundUnits_iff Nat.one_pos few full, Nat.one_mul]

/-! ### Bounds on doubles -/

theorem mul_two_pow_le_overflow (few : n ≤ 2 ^ 53) (low : s < 2045) : n * 2 ^ s ≤ overflowUnits := by
  calc
    n * 2 ^ s ≤ 2 ^ 53 * 1 <<< 2045 := by
      rw [← Nat.one_shiftLeft s]
      exact Nat.mul_le_mul few (one_shiftLeft_lt low).le
    _ = overflowUnits := by
      rw [← Nat.one_shiftLeft 53]
      exact (one_shiftLeft_add 53 2045).symm

/-- Whether a double has no sign and is at least a number of units. -/
def AtLeast : Binary64 → Nat → Prop
  | .finite false magnitude, bound => bound ≤ magnitude.units
  | .infinite false, _ => True
  | _, _ => False

theorem atLeast_ofUnits_iff (bounded : bound ≤ overflowUnits) :
    AtLeast (ofUnits false num den) bound ↔ bound ≤ roundUnits num den := by
  rw [ofUnits]
  split
  · rfl
  · next overflow =>
    exact iff_of_true trivial (Nat.le_trans bounded (Nat.not_lt.mp overflow))

theorem not_atLeast_ofUnits : ¬ AtLeast (ofUnits true num den) bound := by
  rw [ofUnits]
  split <;> exact id

theorem hasUnits_of_atLeast (reached : AtLeast x units) (kept : ¬ AtLeast x (units + 1)) :
    HasUnits x units := by
  match x with
  | .nan | .infinite true | .finite true _ => exact reached.elim
  | .infinite false => exact (kept trivial).elim
  | .finite false magnitude =>
    exact ⟨magnitude, rfl, Nat.le_antisymm (Nat.le_of_not_lt kept) reached⟩

/-- What lies above a number of units is at least one unit more. -/
theorem HasUnits.lt_iff_atLeast (exact : HasUnits x units) :
    x.lt y = true ↔ AtLeast y (units + 1) := by
  obtain ⟨magnitude, rfl, rfl⟩ := exact
  match y with
  | .nan | .infinite true | .infinite false => simp [Binary64.lt, AtLeast]
  | .finite false _ =>
    rw [Binary64.lt, decide_eq_true_eq]
    exact Int.ofNat_lt
  | .finite true _ =>
    simp only [Binary64.lt, AtLeast, signedUnits, decide_eq_true_eq, if_true, iff_false]
    rw [if_neg Bool.false_ne_true]
    omega

theorem AtLeast.lt_eq_false (reached : AtLeast x bound) (exact : HasUnits y bound) :
    x.lt y = false := by
  obtain ⟨magnitude, rfl, rfl⟩ := exact
  match x with
  | .nan | .infinite true | .finite true _ => exact reached.elim
  | .infinite false => rfl
  | .finite false _ =>
    rw [Binary64.lt, decide_eq_false_iff_not, Int.not_lt]
    exact Int.ofNat_le.mpr reached

theorem infinite_mul (factor : HasUnits y units) (positive : 0 < units) (sign : Bool) :
    infinite sign * y = infinite sign := by
  obtain ⟨magnitude, rfl, rfl⟩ := factor
  change (if magnitude.units = 0 then nan else infinite (sign ^^ false)) = _
  rw [if_neg positive.ne', Bool.xor_false]

/-- A product with a positive number has the sign of the other factor. -/
theorem atLeast_zero_mul (factor : HasUnits y units) (positive : 0 < units) :
    AtLeast (x * y) 0 ↔ AtLeast x 0 := by
  match x with
  | .nan => rfl
  | .infinite sign =>
    rw [infinite_mul factor positive]
  | .finite true _ =>
    obtain ⟨_, rfl, -⟩ := factor
    exact iff_of_false not_atLeast_ofUnits id
  | .finite false _ =>
    obtain ⟨_, rfl, -⟩ := factor
    exact iff_of_true ((atLeast_ofUnits_iff (Nat.zero_le _)).mpr (Nat.zero_le _)) (Nat.zero_le _)

/-- A product with a power of two only moves the places of a bound. -/
theorem atLeast_mul_iff (power : HasUnits y (1 <<< i)) (few : n ≤ 2 ^ 53) (full : 2 ^ 52 < n)
    (low : t < 2045) (places : s + i = t + 1074) :
    AtLeast (x * y) (n * 2 ^ t) ↔ AtLeast x (n * 2 ^ s) := by
  match x with
  | .nan => rfl
  | .infinite sign =>
    rw [infinite_mul power (one_shiftLeft_pos i)]
    cases sign <;> rfl
  | .finite true magnitude =>
    obtain ⟨factor, rfl, -⟩ := power
    exact iff_of_false not_atLeast_ofUnits id
  | .finite false magnitude =>
    obtain ⟨factor, rfl, exact⟩ := power
    change AtLeast (ofUnits false (magnitude.units * factor.units) unit) _ ↔ _ ≤ magnitude.units
    have moved : unit * 2 ^ t = 2 ^ s * 1 <<< i := by
      rw [← Nat.one_shiftLeft, ← Nat.one_shiftLeft, ← one_shiftLeft_add, places, Nat.add_comm t]
      exact (one_shiftLeft_add 1074 t).symm
    rw [atLeast_ofUnits_iff (mul_two_pow_le_overflow few low),
      le_roundUnits_iff unit_pos few (.inl full), exact, moved,
      reaches_mul_iff (one_shiftLeft_pos i), le_units_iff magnitude.onGrid few (.inl full)]

/-! ### Bounds that are whole numbers -/

theorem two_pow_add_unit (s : Nat) : 2 ^ (s + 1074) = 2 ^ s * unit := by
  rw [← Nat.one_shiftLeft, ← Nat.one_shiftLeft]
  exact one_shiftLeft_add s 1074

theorem atLeast_succ_iff (full : 2 ^ 52 ≤ n) :
    AtLeast x (n * 2 ^ s + 1) ↔ AtLeast x ((n + 1) * 2 ^ s) := by
  match x with
  | .nan | .infinite true | .infinite false | .finite true _ => rfl
  | .finite false magnitude =>
    refine ⟨magnitude.onGrid.succ_le full, fun reached => Nat.le_trans ?_ reached⟩
    rw [Nat.succ_mul]
    exact Nat.add_le_add_left (Nat.two_pow_pos s) _

/-- Rounding up to a whole number does not pass a bound beyond which all doubles are whole. -/
theorem atLeast_ceil_iff (few : n ≤ 2 ^ 53) (full : 2 ^ 52 < n) (low : s < 971) :
    AtLeast x.ceil (n * 2 ^ (s + 1074)) ↔ AtLeast x (n * 2 ^ (s + 1074)) := by
  match x with
  | .nan | .infinite _ => rfl
  | .finite true _ => exact iff_of_false not_atLeast_ofUnits id
  | .finite false magnitude =>
    have bounded : n * 2 ^ (s + 1074) ≤ overflowUnits := mul_two_pow_le_overflow few (by omega)
    rw [ceil, if_neg Bool.false_ne_true, ofRatio, atLeast_ofUnits_iff bounded,
      le_roundUnits_iff Nat.one_pos few (.inl full), Nat.one_mul, AtLeast,
      ← Nat.add_sub_assoc unit_pos, ← Nat.ceilDiv_eq_add_pred_div]
    have whole (k : Nat) : magnitude.units ⌈/⌉ unit ≤ k ↔ magnitude.units ≤ k * unit := by
      rw [Nat.mul_comm, ceilDiv_le_iff_le_mul unit_pos]
    have place := Nat.two_pow_pos (s + 1074)
    constructor
    · intro reached
      by_contra fewer
      have before := magnitude.onGrid.le_pred full (Nat.not_le.mp fewer)
      have cut : (magnitude.units ⌈/⌉ unit) * unit ≤ (n - 1) * 2 ^ (s + 1074) := by
        rw [two_pow_add_unit, ← Nat.mul_assoc] at before ⊢
        exact Nat.mul_le_mul_right unit ((whole _).mpr before)
      rw [Nat.sub_mul, Nat.one_mul] at cut
      rw [Reaches] at reached
      have least : 2 ^ (s + 1074) ≤ n * 2 ^ (s + 1074) := Nat.le_mul_of_pos_left _ (by omega)
      omega
    · intro reached
      have covered := (whole _).mp (Nat.le_refl (magnitude.units ⌈/⌉ unit))
      exact .inl (by omega)

/-- A double below a whole number is cut to a smaller one. -/
theorem toNatBelow_lt (fewer : ¬ AtLeast x (n * unit)) (positive : 0 < n) (greatest : Nat) :
    x.toNatBelow greatest < n := by
  match x with
  | .nan | .infinite true | .finite true _ => exact positive
  | .infinite false => exact (fewer trivial).elim
  | .finite false magnitude =>
    refine Nat.lt_of_le_of_lt (Nat.min_le_left _ _) ?_
    exact (Nat.div_lt_iff_lt_mul unit_pos).mpr (Nat.not_le.mp fewer)

end NodeSupply.Binary64
