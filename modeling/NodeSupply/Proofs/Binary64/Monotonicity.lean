import NodeSupply.Proofs.Binary64.RoundingOrder

/-! Which way results move. Rounding keeps the order of quotients, so a result that has no sign only grows
with what it is a product, a quotient, a difference or a floor of; and it shrinks with what it is divided
by or what is taken from it. Results that have a sign lie below all others, and so does NaN. -/

namespace NodeSupply.Binary64

variable {units num num' den den' bound n i j k l s t a b : Nat} {x x' y y' : Binary64}

/-! ### Rounding -/

theorem Reaches.mono (positive : 0 < den) (positive' : 0 < den') (le : num * den' ≤ num' * den)
    (reached : Reaches num den n) : Reaches num' den' n := by
  have scaled : (2 * num + den) * den' ≤ (2 * num' + den') * den := by
    calc
      (2 * num + den) * den' = 2 * (num * den') + den' * den := by ring
      _ ≤ 2 * (num' * den) + den' * den := by omega
      _ = (2 * num' + den') * den := by ring
  have moved : 2 * (n * den) * den' = 2 * (n * den') * den := by ring
  rcases reached with below | ⟨even, half⟩
  · have less := Nat.mul_lt_mul_of_pos_right below positive'
    exact .inl (Nat.lt_of_mul_lt_mul_right (Nat.lt_of_lt_of_le (moved ▸ less) scaled))
  · have most : 2 * (n * den') ≤ 2 * num' + den' := by
      refine Nat.le_of_mul_le_mul_right (c := den) ?_ positive
      rw [← moved, half]
      exact scaled
    exact (Nat.lt_or_eq_of_le most).imp_right fun equal => ⟨even, equal⟩

/-- A number of 53 digits, all of them needed, or one that has no zeros behind its digits. -/
theorem OnGrid.exists_digits (onGrid : OnGrid units) :
    ∃ n s, n ≤ 2 ^ 53 ∧ (2 ^ 52 < n ∨ s = 0) ∧ units = n * 2 ^ s := by
  obtain ⟨n, s, few, rfl⟩ := onGrid
  rw [Nat.one_shiftLeft] at few
  rw [Nat.shiftLeft_eq]
  -- The digits are doubled until they pass 2⁵², as long as there are zeros behind them.
  induction s generalizing n with
  | zero => exact ⟨n, 0, few, .inr rfl, rfl⟩
  | succ s ih =>
      rcases Nat.lt_or_ge (2 ^ 52) n with full | small
      · exact ⟨n, s + 1, few, .inl full, rfl⟩
      · have doubled := ih (2 * n) (by omega)
        rwa [show 2 * n * 2 ^ s = n * 2 ^ (s + 1) by ring] at doubled

theorem roundUnits_mono (positive : 0 < den) (positive' : 0 < den')
    (le : num * den' ≤ num' * den) : roundUnits num den ≤ roundUnits num' den' := by
  obtain ⟨n, s, few, full, digits⟩ := (onGrid_roundUnits num den).exists_digits
  rw [digits, le_roundUnits_iff positive' few full]
  have place := Nat.two_pow_pos s
  refine Reaches.mono (Nat.mul_pos positive place) (Nat.mul_pos positive' place) ?_
    ((le_roundUnits_iff positive few full).mp digits.ge)
  rw [← Nat.mul_assoc, ← Nat.mul_assoc]
  exact Nat.mul_le_mul_right _ le

/-! ### The order of doubles without a sign -/

theorem AtLeast.of_le (reached : AtLeast x bound) (le : n ≤ bound) : AtLeast x n := by
  match x with
  | .nan | .infinite true | .finite true _ => exact reached.elim
  | .infinite false => trivial
  | .finite false _ => exact Nat.le_trans le reached

/-- Whether a double lies at or above another one, which lies below everything if it has a sign or is
NaN. -/
def Below (x y : Binary64) : Prop := ∀ bound, AtLeast x bound → AtLeast y bound

theorem below_of_not_atLeast (none : ¬ AtLeast x 0) (y : Binary64) : Below x y :=
  fun bound reached => (none (reached.of_le (Nat.zero_le bound))).elim

theorem Below.refl (x : Binary64) : Below x x := fun _ => id

theorem below_infinite (x : Binary64) : Below x (.infinite false) := fun _ _ => trivial

theorem Below.units_le (below : Below x y) (first : HasUnits x a) (second : HasUnits y b) :
    a ≤ b := by
  obtain ⟨m, rfl, rfl⟩ := first
  obtain ⟨k, rfl, rfl⟩ := second
  exact below m.units (Nat.le_refl m.units)

theorem below_ofUnits (positive : 0 < den) (positive' : 0 < den')
    (le : num * den' ≤ num' * den) : Below (ofUnits false num den) (ofUnits false num' den') := by
  have rounded := roundUnits_mono positive positive' le
  by_cases bounded : roundUnits num' den' < overflowUnits
  · have bounded' := Nat.lt_of_le_of_lt rounded bounded
    rw [ofUnits, dif_pos bounded', ofUnits, dif_pos bounded]
    exact fun bound reached => Nat.le_trans reached rounded
  · rw [ofUnits.eq_def false num', dif_neg bounded]
    exact below_infinite _

theorem below_ofNat (le : n ≤ k) : Below (ofNat n) (ofNat k) := by
  rw [ofNat, ofNat, ofRatio, ofRatio]
  refine below_ofUnits Nat.one_pos Nat.one_pos ?_
  exact Nat.mul_le_mul_right 1 (Nat.mul_le_mul_right unit le)

theorem Below.eq_infinite (below : Below (.infinite false) y) : y = .infinite false := by
  match y with
  | .nan | .infinite true | .finite true _ => exact (below 0 trivial).elim
  | .infinite false => rfl
  | .finite false m =>
    have passed : m.units + 1 ≤ m.units := below (m.units + 1) trivial
    omega

/-- What is to be shown of an operation so that its results move with its argument. -/
theorem Below.lift (f f' : Binary64 → Binary64) (below : Below x x')
    (signed : ¬ AtLeast x 0 → ¬ AtLeast (f x) 0) (top : f' (.infinite false) = .infinite false)
    (finite : ∀ m m' : Magnitude, m.units ≤ m'.units →
      Below (f (.finite false m)) (f' (.finite false m'))) : Below (f x) (f' x') := by
  by_cases some : AtLeast x 0
  · match x with
    | .nan | .infinite true | .finite true _ => exact some.elim
    | .infinite false =>
      rw [below.eq_infinite, top]
      exact below_infinite _
    | .finite false m =>
      have reached : AtLeast x' m.units := below m.units (Nat.le_refl m.units)
      match x' with
      | .nan | .infinite true | .finite true _ => exact reached.elim
      | .infinite false =>
        rw [top]
        exact below_infinite _
      | .finite false m' => exact finite m m' reached
  · exact below_of_not_atLeast (signed some) _

/-! ### Numbers between powers of two -/

/-- Whether a double is finite and lies between two powers of two, in units. So it is positive. -/
def Within (x : Binary64) (i j : Nat) : Prop :=
  ∃ units, HasUnits x units ∧ 2 ^ i ≤ units ∧ units ≤ 2 ^ j

theorem Within.exists_units (within : Within x i j) : ∃ units, HasUnits x units ∧ 0 < units := by
  obtain ⟨units, exact, low, -⟩ := within
  exact ⟨units, exact, Nat.lt_of_lt_of_le (Nat.two_pow_pos i) low⟩

theorem Within.atLeast_zero (within : Within x i j) : AtLeast x 0 := by
  obtain ⟨_, ⟨_, rfl, -⟩, -⟩ := within
  exact Nat.zero_le _

theorem HasUnits.within (exact : HasUnits x (1 <<< i)) : Within x i i :=
  ⟨1 <<< i, exact, (Nat.one_shiftLeft i).ge, (Nat.one_shiftLeft i).le⟩

theorem within_ofUnits (positive : 0 < den) (low : 2 ^ i * den ≤ num) (high : num ≤ 2 ^ j * den)
    (bounded : j < 2098) : Within (ofUnits false num den) i j := by
  have power (k : Nat) : roundUnits (2 ^ k * den) den = 2 ^ k := by
    rw [← Nat.one_shiftLeft]
    exact roundUnits_of_onGrid (onGrid_one_shiftLeft k) positive
  have least := roundUnits_mono positive positive (Nat.mul_le_mul_right den low)
  have greatest := roundUnits_mono positive positive (Nat.mul_le_mul_right den high)
  rw [power] at least greatest
  have inRange : roundUnits num den < overflowUnits := by
    refine Nat.lt_of_le_of_lt greatest ?_
    rw [← Nat.one_shiftLeft]
    exact one_shiftLeft_lt bounded
  rw [ofUnits, dif_pos inRange]
  exact ⟨_, ⟨_, rfl, rfl⟩, least, greatest⟩

theorem within_ofNat (positive : 0 < n) (few : n ≤ 2 ^ j) (bounded : j < 1024) :
    Within (ofNat n) 1074 (j + 1074) := by
  rw [ofNat, ofRatio]
  refine within_ofUnits Nat.one_pos ?_ ?_ (by omega)
  · rw [Nat.mul_one, ← Nat.one_shiftLeft]
    exact Nat.le_mul_of_pos_left unit positive
  · rw [Nat.mul_one, two_pow_add_unit]
    exact Nat.mul_le_mul_right unit few

/-- Decimals are bounded by powers of two as their digits are. -/
theorem within_ofDecimal (digits places k l : Nat) (small : k ≤ 1074) (large : l < 1024)
    (low : 10 ^ places ≤ digits * 2 ^ k) (high : digits ≤ 2 ^ l * 10 ^ places) :
    Within (ofDecimal false digits (-(places : Int))) (1074 - k) (l + 1074) := by
  rw [ofDecimal_neg]
  refine within_ofUnits (Nat.pow_pos (by omega)) ?_ ?_ (by omega)
  · calc
      2 ^ (1074 - k) * 10 ^ places ≤ 2 ^ (1074 - k) * (digits * 2 ^ k) := Nat.mul_le_mul_left _ low
      _ = digits * 2 ^ (1074 - k + k) := by ring
      _ = digits * unit := by rw [Nat.sub_add_cancel small, ← Nat.one_shiftLeft, unit]
  · calc
      digits * unit ≤ 2 ^ l * 10 ^ places * unit := Nat.mul_le_mul_right unit high
      _ = 2 ^ l * unit * 10 ^ places := by ring
      _ = 2 ^ (l + 1074) * 10 ^ places := by rw [two_pow_add_unit]

theorem Within.mul (first : Within x i j) (second : Within y k l) (low : s + 1074 ≤ i + k)
    (high : j + l ≤ t + 1074) (bounded : t < 2098) : Within (x * y) s t := by
  obtain ⟨_, ⟨a, rfl, rfl⟩, least, greatest⟩ := first
  obtain ⟨_, ⟨b, rfl, rfl⟩, least', greatest'⟩ := second
  change Within (ofUnits false (a.units * b.units) unit) s t
  refine within_ofUnits unit_pos ?_ ?_ bounded
  · calc
      2 ^ s * unit = 2 ^ (s + 1074) := (two_pow_add_unit s).symm
      _ ≤ 2 ^ (i + k) := Nat.pow_le_pow_right Nat.two_pos low
      _ = 2 ^ i * 2 ^ k := Nat.pow_add 2 i k
      _ ≤ a.units * b.units := Nat.mul_le_mul least least'
  · calc
      a.units * b.units ≤ 2 ^ j * 2 ^ l := Nat.mul_le_mul greatest greatest'
      _ = 2 ^ (j + l) := (Nat.pow_add 2 j l).symm
      _ ≤ 2 ^ (t + 1074) := Nat.pow_le_pow_right Nat.two_pos high
      _ = 2 ^ t * unit := two_pow_add_unit t

theorem Within.div (first : Within x i j) (second : Within y k l) (low : s + l ≤ i + 1074)
    (high : j + 1074 ≤ t + k) (bounded : t < 2098) : Within (x / y) s t := by
  obtain ⟨_, ⟨a, rfl, rfl⟩, least, greatest⟩ := first
  obtain ⟨_, ⟨b, rfl, rfl⟩, least', greatest'⟩ := second
  have positive : 0 < b.units := Nat.lt_of_lt_of_le (Nat.two_pow_pos k) least'
  change Within (if b.units = 0 then _ else ofUnits false (a.units * unit) b.units) s t
  rw [if_neg positive.ne']
  refine within_ofUnits positive ?_ ?_ bounded
  · calc
      2 ^ s * b.units ≤ 2 ^ s * 2 ^ l := Nat.mul_le_mul_left _ greatest'
      _ = 2 ^ (s + l) := (Nat.pow_add 2 s l).symm
      _ ≤ 2 ^ (i + 1074) := Nat.pow_le_pow_right Nat.two_pos low
      _ = 2 ^ i * unit := two_pow_add_unit i
      _ ≤ a.units * unit := Nat.mul_le_mul_right unit least
  · calc
      a.units * unit ≤ 2 ^ j * unit := Nat.mul_le_mul_right unit greatest
      _ = 2 ^ (j + 1074) := (two_pow_add_unit j).symm
      _ ≤ 2 ^ (t + k) := Nat.pow_le_pow_right Nat.two_pos high
      _ = 2 ^ t * 2 ^ k := Nat.pow_add 2 t k
      _ ≤ 2 ^ t * b.units := Nat.mul_le_mul_left _ least'

/-! ### Operations -/

theorem Below.mul (below : Below x x') (factor : Within y i j) : Below (x * y) (x' * y) := by
  obtain ⟨units, exact, positive⟩ := factor.exists_units
  refine below.lift (· * y) (· * y) ?_ (infinite_mul exact positive false) ?_
  · exact mt (atLeast_zero_mul exact positive).mp
  · intro m m' le
    obtain ⟨k, rfl, rfl⟩ := exact
    refine below_ofUnits unit_pos unit_pos ?_
    exact Nat.mul_le_mul_right unit (Nat.mul_le_mul_right k.units le)

/-- A quotient by a positive number has the sign of what is divided. -/
theorem atLeast_zero_div (divisor : HasUnits y units) (positive : 0 < units) :
    AtLeast (x / y) 0 ↔ AtLeast x 0 := by
  obtain ⟨m, rfl, rfl⟩ := divisor
  match x with
  | .nan => rfl
  | .infinite true | .infinite false => rfl
  | .finite true k =>
    refine iff_of_false ?_ id
    change ¬ AtLeast (if m.units = 0 then _ else ofUnits true (k.units * unit) m.units) 0
    rw [if_neg positive.ne']
    exact not_atLeast_ofUnits
  | .finite false k =>
    refine iff_of_true ?_ (Nat.zero_le _)
    change AtLeast (if m.units = 0 then _ else ofUnits false (k.units * unit) m.units) 0
    rw [if_neg positive.ne', atLeast_ofUnits_iff (Nat.zero_le _)]
    exact Nat.zero_le _

theorem Below.div (below : Below x x') (fewer : Below y' y) (divisor : Within y i j)
    (divisor' : Within y' k l) : Below (x / y) (x' / y') := by
  obtain ⟨units, exact, positive⟩ := divisor.exists_units
  obtain ⟨units', exact', positive'⟩ := divisor'.exists_units
  have le : units' ≤ units := fewer.units_le exact' exact
  refine below.lift (· / y) (· / y') ?_ ?_ ?_
  · exact mt (atLeast_zero_div exact positive).mp
  · obtain ⟨m, rfl, -⟩ := exact'
    rfl
  · intro a a' more
    obtain ⟨m, rfl, rfl⟩ := exact
    obtain ⟨m', rfl, rfl⟩ := exact'
    change Below (if m.units = 0 then _ else ofUnits false (a.units * unit) m.units)
      (if m'.units = 0 then _ else ofUnits false (a'.units * unit) m'.units)
    rw [if_neg positive.ne', if_neg positive'.ne']
    refine below_ofUnits positive positive' ?_
    exact Nat.mul_le_mul (Nat.mul_le_mul_right unit more) le

theorem addFinite_of_le (le : b ≤ a) : addFinite false a true b = ofUnits false (a - b) 1 := by
  rw [addFinite, if_neg Bool.false_ne_true]
  rcases Nat.lt_or_eq_of_le le with less | rfl
  · rw [if_pos less]
  · rw [if_neg (Nat.lt_irrefl b), if_neg (Nat.lt_irrefl b), Nat.sub_self]

theorem not_atLeast_addFinite (less : a < b) : ¬ AtLeast (addFinite false a true b) bound := by
  rw [addFinite, if_neg Bool.false_ne_true, if_neg (Nat.not_lt.mpr less.le), if_pos less]
  exact not_atLeast_ofUnits

theorem Below.sub (below : Below x x') (fewer : Below y' y) (unsigned : AtLeast y' 0) :
    Below (x - y) (x' - y') := by
  match y with
  | .nan | .infinite true | .finite true _ => exact (fewer 0 unsigned).elim
  | .infinite false =>
    refine below_of_not_atLeast ?_ _
    match x with
    | .nan | .infinite true | .infinite false | .finite _ _ => exact id
  | .finite false m =>
    match y' with
    | .nan | .infinite true | .finite true _ => exact unsigned.elim
    | .infinite false => cases fewer.eq_infinite
    | .finite false m' =>
      have le : m'.units ≤ m.units := fewer m'.units (Nat.le_refl m'.units)
      refine below.lift (· - .finite false m) (· - .finite false m') ?_ rfl ?_
      · intro none
        match x with
        | .nan | .infinite true => exact id
        | .infinite false => exact (none trivial).elim
        | .finite true _ => exact not_atLeast_ofUnits
        | .finite false _ => exact (none (Nat.zero_le _)).elim
      · intro a a' more
        change Below (addFinite false a.units true m.units) (addFinite false a'.units true m'.units)
        -- A difference below zero has a sign, and then there is nothing to show.
        rcases Nat.lt_or_ge a.units m.units with less | covered
        · exact below_of_not_atLeast (not_atLeast_addFinite less) _
        · rw [addFinite_of_le covered, addFinite_of_le (by omega)]
          exact below_ofUnits Nat.one_pos Nat.one_pos (by omega)

theorem Below.sub_right (below : Below x x') (taken : Within y i j) : Below (x - y) (x' - y) :=
  below.sub (.refl y) taken.atLeast_zero

theorem Below.floor (below : Below x x') : Below x.floor x'.floor := by
  refine below.lift Binary64.floor Binary64.floor ?_ rfl fun m m' le => ?_
  · intro none
    match x with
    | .nan | .infinite true | .infinite false => exact none
    | .finite true _ => exact not_atLeast_ofUnits
    | .finite false _ => exact (none (Nat.zero_le _)).elim
  · exact below_ofNat (Nat.div_le_div_right le)

theorem Below.toNatBelow_le (below : Below x y) (greatest : Nat) :
    x.toNatBelow greatest ≤ y.toNatBelow greatest := by
  match x with
  | .nan | .infinite true | .finite true _ => exact Nat.zero_le _
  | .infinite false =>
    rw [below.eq_infinite]
  | .finite false m =>
    have reached : AtLeast y m.units := below m.units (Nat.le_refl m.units)
    match y with
    | .nan | .infinite true | .finite true _ => exact reached.elim
    | .infinite false => exact Nat.min_le_right _ _
    | .finite false _ => exact min_le_min_right greatest (Nat.div_le_div_right reached)

theorem zero_lt_iff : zero.lt x = true ↔ AtLeast x 1 := hasUnits_zero.lt_iff_atLeast

theorem Within.zero_lt (within : Within x i j) : zero.lt x = true := by
  obtain ⟨units, ⟨m, rfl, rfl⟩, positive⟩ := within.exists_units
  exact zero_lt_iff.mpr positive

end NodeSupply.Binary64
