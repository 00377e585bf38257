import NodeSupply.Backoff
import NodeSupply.Proofs.Binary64.WholePowers

/-! The pauses of a schedule whose factor is a whole number. They are worked out in doubles, but what is
rounded there lies beyond every cap of up to 2⁵³ nanoseconds, so each pause is the exact product, held at
the cap. -/

namespace NodeSupply.Backoff

open Binary64

variable {b : Backoff} {retry n f i cap : Nat}

/-- A pause is held at the cap, and exact below it. -/
theorem delay_of_standsFor (stands : StandsFor (b.scaledNanos retry) n)
    (short : b.cap.nanos ≤ 2 ^ 53) : (b.delay retry).nanos = min n b.cap.nanos := by
  have limit : IsWhole (.ofNat b.cap.nanos) b.cap.nanos :=
    (standsFor_ofNat b.cap.nanos).exact short
  simp only [delay]
  by_cases below : n < b.cap.nanos
  · have whole : IsWhole (b.scaledNanos retry) n :=
      stands.exact (Nat.le_trans (Nat.le_of_lt below) short)
    have finite : (b.scaledNanos retry).isFinite = true := by
      obtain ⟨_, value, -⟩ := whole
      rw [value]
      rfl
    have less : (b.scaledNanos retry).lt (.ofNat b.cap.nanos) = true :=
      (whole.hasUnits.lt_iff limit.hasUnits).mpr (Nat.mul_lt_mul_of_pos_right below unit_pos)
    have fits : n < UInt64.size :=
      Nat.lt_of_lt_of_le below (Nat.le_trans short (by decide))
    rw [finite, less, Bool.and_self, if_pos rfl, whole.toNatBelow,
      Nat.min_eq_left (Nat.le_sub_one_of_lt fits), Nat.min_eq_left (Nat.le_of_lt below)]
    exact UInt64.toNat_ofNat_of_lt' fits
  · have most : b.cap.nanos ≤ n := Nat.le_of_not_lt below
    have reached : AtLeast (b.scaledNanos retry) (b.cap.nanos * unit) :=
      stands.reached.of_le (Nat.mul_le_mul_right unit (Nat.le_min.mpr ⟨most, short⟩))
    rw [reached.lt_eq_false limit.hasUnits, Bool.and_false, if_neg Bool.false_ne_true,
      Nat.min_eq_right most]

theorem standsFor_scaledNanos (whole : IsWhole b.factor f) (growing : 0 < f)
    (positive : 0 < b.initial.nanos) (retry : Nat) :
    StandsFor (b.scaledNanos retry) (b.initial.nanos * f ^ min retry greatestExponent) := by
  have power := whole.standsFor.pow growing (min retry greatestExponent)
  exact (standsFor_ofNat b.initial.nanos).mul power positive (Nat.pow_pos growing)

/-- Beyond the greatest exponent a product only grows past every cap that is low enough. -/
theorem min_mul_pow_saturated (growing : 0 < f) (positive : 0 < i) (short : cap ≤ 2 ^ 53)
    (retry : Nat) :
    min (i * f ^ min retry greatestExponent) cap = min (i * f ^ retry) cap := by
  rcases Nat.le_total retry greatestExponent with few | many
  · rw [Nat.min_eq_left few]
  · rw [Nat.min_eq_right many]
    rcases Nat.lt_or_eq_of_le growing with more | one
    · have passed {exponent : Nat} (high : greatestExponent ≤ exponent) :
          cap ≤ i * f ^ exponent := by
        have enough : 53 ≤ exponent := Nat.le_trans (by decide) high
        calc
          cap ≤ 2 ^ 53 := short
          _ ≤ 2 ^ exponent := Nat.pow_le_pow_right Nat.two_pos enough
          _ ≤ f ^ exponent := Nat.pow_le_pow_left more exponent
          _ ≤ i * f ^ exponent := Nat.le_mul_of_pos_left _ positive
      rw [Nat.min_eq_right (passed (Nat.le_refl _)), Nat.min_eq_right (passed many)]
    · rw [← one, Nat.one_pow, Nat.one_pow]

/-- The pause before a retry is the initial one, times the factor for every retry before, up to the cap.
So the pauses never become shorter and never exceed the cap. -/
theorem delay_eq_min (whole : IsWhole b.factor f) (growing : 1 ≤ f)
    (positive : 1 ≤ b.initial.nanos) (short : b.cap.nanos ≤ 2 ^ 53) :
    (∀ retry, (b.delay retry).nanos = min (b.initial.nanos * f ^ retry) b.cap.nanos) ∧
    (∀ retry later, retry ≤ later → (b.delay retry).nanos ≤ (b.delay later).nanos) ∧
    ∀ retry, (b.delay retry).nanos ≤ b.cap.nanos := by
  have exact (retry : Nat) :
      (b.delay retry).nanos = min (b.initial.nanos * f ^ retry) b.cap.nanos := by
    rw [delay_of_standsFor (standsFor_scaledNanos whole growing positive retry) short]
    exact min_mul_pow_saturated growing positive short retry
  refine ⟨exact, ?_, ?_⟩
  · intro retry later before
    rw [exact, exact]
    refine min_le_min_right _ (Nat.mul_le_mul_left _ ?_)
    exact Nat.pow_le_pow_right growing before
  · intro retry
    rw [exact]
    exact Nat.min_le_right _ _

/-- The default schedule multiplies by five, and has reached its cap long before the last retry that can be
numbered. -/
theorem delay_eq_min_of_default :
    let b : Backoff := {}
    IsWhole b.factor 5 ∧ 1 ≤ b.initial.nanos ∧ b.cap.nanos ≤ 2 ^ 53 ∧
      (b.delay 0).nanos = 10000000 ∧ (b.delay 3).nanos = 1250000000 ∧
      (b.delay 5).nanos = b.cap.nanos ∧ (b.delay 4294967295).nanos = b.cap.nanos := by
  intro b
  have whole : IsWhole b.factor 5 := by
    dsimp only [b]
    exact isWhole_ofNat (onGrid_of_le (by omega)) (by omega)
  have positive : 1 ≤ b.initial.nanos := by decide
  have short : b.cap.nanos ≤ 2 ^ 53 := by decide
  obtain ⟨exact, growing, capped⟩ := delay_eq_min whole (by decide) positive short
  have reached : (b.delay 5).nanos = b.cap.nanos := (exact 5).trans (by decide)
  refine ⟨whole, positive, short, (exact 0).trans (by decide), (exact 3).trans (by decide), reached, ?_⟩
  refine Nat.le_antisymm (capped _) ?_
  rw [← reached]
  exact growing 5 _ (by decide)

end NodeSupply.Backoff
