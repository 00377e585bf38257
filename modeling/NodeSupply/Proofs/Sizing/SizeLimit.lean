import Mathlib.Algebra.Order.Field.Rat
import Mathlib.Tactic.NormNum
import NodeSupply.Proofs.Binary64.RoundingOrder
import NodeSupply.Proofs.Sizing.WholeSizes

/-! The limit of sizes. A size is refused when its bytes are greater than the greatest signed number of 64
bits; but as a double this number is 2⁶³, one byte more. What is accepted at this limit is said here of
the bytes that a text speaks of, before any rounding, so for every unit and every way of writing it. -/

namespace NodeSupply

open Binary64

theorem hasUnits_bytesPerGib : HasUnits bytesPerGib (1 <<< 1104) :=
  (one_shiftLeft_add 30 1074).symm ▸ isWhole_bytesPerGib.hasUnits

namespace SizeText

variable (t : SizeText)

/-- All digits of a size text as one number. -/
def digits : Nat := digitsValue (t.whole ++ t.fraction.getD [])

/-- How many of the digits stand behind the point. -/
def places : Nat := (t.fraction.getD []).length

/-- The bytes that a size text speaks of, before any rounding. -/
def exactBytes : ℚ := t.digits * t.unit.bytes / 10 ^ t.places

theorem le_exactBytes_iff (n : Nat) :
    n ≤ t.exactBytes ↔ n * 10 ^ t.places ≤ t.digits * t.unit.bytes := by
  rw [exactBytes, le_div_iff₀ (by positivity)]
  exact_mod_cast Iff.rfl

theorem exactBytes_le_iff (n : Nat) :
    t.exactBytes ≤ n ↔ t.digits * t.unit.bytes ≤ n * 10 ^ t.places := by
  rw [exactBytes, div_le_iff₀ (by positivity)]
  exact_mod_cast Iff.rfl

theorem number_eq : t.number = ofUnits false (t.digits * Binary64.unit) (10 ^ t.places) :=
  ofDecimal_neg t.digits t.places

/-- A size has no sign. -/
theorem atLeast_zero : AtLeast t.gib 0 := by
  have number : AtLeast t.number 0 := by
    rw [number_eq, atLeast_ofUnits_iff (Nat.zero_le _)]
    exact Nat.zero_le _
  exact (atLeast_zero_mul t.unit.hasUnits_gib (one_shiftLeft_pos _)).mpr number

/-- Number, unit and bytes are each rounded, but only the places of a bound change on the way. -/
theorem atLeast_bytes_iff {n s : Nat} (few : n ≤ 2 ^ 53) (full : 2 ^ 52 < n) (low : s ≤ 63) :
    AtLeast (t.gib * bytesPerGib) (n * 2 ^ (s + 1074)) ↔
      Reaches (t.digits * t.unit.bytes) (10 ^ t.places * 2 ^ s) n := by
  have small : t.unit.exponent ≤ 40 := by cases t.unit <;> simp [SizeUnit.exponent]
  have decimal : 0 < 10 ^ t.places := Nat.pow_pos (by omega)
  have places : 10 ^ t.places * 2 ^ (s + 1074 - t.unit.exponent) * 2 ^ t.unit.exponent =
      10 ^ t.places * 2 ^ s * Binary64.unit := by
    rw [Nat.mul_assoc, ← Nat.pow_add, Nat.sub_add_cancel (by omega), two_pow_add_unit,
      Nat.mul_assoc]
  have digits : t.digits * Binary64.unit * 2 ^ t.unit.exponent =
      t.digits * t.unit.bytes * Binary64.unit := by
    rw [SizeUnit.bytes, Nat.one_shiftLeft, Nat.mul_right_comm]
  calc
    AtLeast (t.gib * bytesPerGib) (n * 2 ^ (s + 1074)) ↔ AtLeast t.gib (n * 2 ^ (s + 1044)) :=
      atLeast_mul_iff hasUnits_bytesPerGib few full (by omega) (by omega)
    _ ↔ AtLeast t.number (n * 2 ^ (s + 1074 - t.unit.exponent)) :=
      atLeast_mul_iff t.unit.hasUnits_gib few full (by omega) (by omega)
    _ ↔ Reaches (t.digits * Binary64.unit)
          (10 ^ t.places * 2 ^ (s + 1074 - t.unit.exponent)) n := by
      rw [number_eq, atLeast_ofUnits_iff (mul_two_pow_le_overflow few (by omega)),
        le_roundUnits_iff decimal few (.inl full)]
    _ ↔ Reaches (t.digits * t.unit.bytes) (10 ^ t.places * 2 ^ s) n := by
      rw [← reaches_mul_iff (Nat.two_pow_pos t.unit.exponent), digits, places,
        reaches_mul_iff unit_pos]

/-- The bytes of a size come to 2⁶³ or more just if the text is at most half a place below. -/
theorem atLeast_limit_iff :
    AtLeast (t.gib * bytesPerGib) (2 ^ 53 * 2 ^ (10 + 1074)) ↔ 2 ^ 63 - 2 ^ 9 ≤ t.exactBytes := by
  have half : ((2 ^ 63 - 2 ^ 9 : Nat) : ℚ) = 2 ^ 63 - 2 ^ 9 := by norm_num
  rw [t.atLeast_bytes_iff (Nat.le_refl _) (by omega) (by omega), ← half, le_exactBytes_iff, Reaches]
  omega

/-- The bytes of a size go beyond 2⁶³ just if the text is more than half a place above. -/
theorem atLeast_beyond_limit_iff :
    AtLeast (t.gib * bytesPerGib) (2 ^ 52 * 2 ^ (11 + 1074) + 1) ↔
      2 ^ 63 + 2 ^ 10 < t.exactBytes := by
  have half : ((2 ^ 63 + 2 ^ 10 : Nat) : ℚ) = 2 ^ 63 + 2 ^ 10 := by norm_num
  rw [atLeast_succ_iff (Nat.le_refl _), t.atLeast_bytes_iff (by omega) (by omega) (by omega), ← half,
    ← not_le, exactBytes_le_iff, Reaches]
  omega

end SizeText

/-! ### Reading and counting -/

section Reading

variable {t : SizeText}

/-- The limit of sizes is half a place above 2⁶³ bytes. -/
theorem outOfSizeRange_iff : outOfSizeRange t.gib = true ↔ 2 ^ 63 + 2 ^ 10 < t.exactBytes := by
  have limit : HasUnits greatestSizeBytes (2 ^ 52 * 2 ^ (11 + 1074)) := by
    rw [two_pow_add_unit, ← Nat.mul_assoc]
    exact isWhole_greatestSizeBytes.hasUnits
  rw [outOfSizeRange, t.atLeast_zero.lt_eq_false hasUnits_zero, Bool.false_or, limit.lt_iff_atLeast,
    t.atLeast_beyond_limit_iff]

/-- A size is read just if its text is well formed, does not go beyond the limit, and is not rounded to
zero where that is no size. -/
theorem readSize_eq_ok_iff {zeroAllowed : Bool} {value : String} {g : Binary64} :
    readSize zeroAllowed value = .ok g ↔
      ∃ t, SizeText.ofChars? (Text.trimChars value.toList) = some t ∧ t.gib = g ∧
        t.exactBytes ≤ 2 ^ 63 + 2 ^ 10 ∧ (zeroAllowed = false → g.isZero = false) := by
  rw [readSize]
  split
  · next none => simp [none]
  · next t some =>
    have range : outOfSizeRange t.gib = false ↔ t.exactBytes ≤ 2 ^ 63 + 2 ^ 10 := by
      rw [← not_lt, ← outOfSizeRange_iff, Bool.not_eq_true]
    rw [some]
    constructor
    · intro read
      split at read
      · cases read
      · next kept =>
        rw [Bool.or_eq_true, not_or, Bool.not_eq_true, Bool.not_eq_true] at kept
        cases read
        refine ⟨t, rfl, rfl, range.mp kept.1, fun zero => ?_⟩
        simpa only [zero, Bool.not_false, Bool.true_and] using kept.2
    · rintro ⟨_, same, rfl, within, nonzero⟩
      cases same
      have kept : (!zeroAllowed && t.gib.isZero) = false := by
        cases zeroAllowed with
        | false => exact nonzero rfl
        | true => rfl
      rw [range.mpr within, kept]
      rfl

theorem toNat_gibToBytes_lt (below : t.exactBytes < 2 ^ 63 - 2 ^ 9) :
    (gibToBytes t.gib).toNat < 2 ^ 63 := by
  have limit : 2 ^ 63 * Binary64.unit = 2 ^ 53 * 2 ^ (10 + 1074) := by
    rw [two_pow_add_unit, ← Nat.mul_assoc, ← Nat.pow_add]
  have short : ¬ AtLeast (t.gib * bytesPerGib).ceil (2 ^ 63 * Binary64.unit) := by
    rw [limit, atLeast_ceil_iff (Nat.le_refl _) (by omega) (by omega), t.atLeast_limit_iff, not_le]
    exact below
  have fewer := toNatBelow_lt short (by omega) (UInt64.size - 1)
  rw [gibToBytes, UInt64.toNat_ofNat_of_lt' (Nat.lt_trans fewer (by decide))]
  exact fewer

theorem toNat_gibToBytes_eq (reached : 2 ^ 63 - 2 ^ 9 ≤ t.exactBytes)
    (fits : t.exactBytes ≤ 2 ^ 63 + 2 ^ 10) : (gibToBytes t.gib).toNat = 2 ^ 63 := by
  have whole : IsWhole (t.gib * bytesPerGib) (1 <<< 63) := by
    have arrived := t.atLeast_limit_iff.mpr reached
    have stayed := mt t.atLeast_beyond_limit_iff.mp fits.not_gt
    rw [two_pow_add_unit, ← Nat.mul_assoc] at arrived stayed
    exact hasUnits_of_atLeast arrived stayed
  rw [gibToBytes, (whole.ceil (onGrid_one_shiftLeft 63) (one_shiftLeft_lt (by omega))).toNatBelow]
  rfl

/-- Accepted sizes have 2⁶³ bytes at most, one more than the greatest signed number of 64 bits. They have
no more than that number just if the text speaks of less than 2⁶³ − 2⁹ bytes; the others are rounded up
to 2⁶³. -/
theorem accepted_bytes {value : String} {g : Binary64}
    (accepted : parseSize value = .ok g ∨ parseRequirement value = .ok g) :
    ∃ t, SizeText.ofChars? (Text.trimChars value.toList) = some t ∧
      t.exactBytes ≤ 2 ^ 63 + 2 ^ 10 ∧
      (gibToBytes g).toNat ≤ 2 ^ 63 ∧
      ((gibToBytes g).toNat ≤ 2 ^ 63 - 1 ↔ t.exactBytes < 2 ^ 63 - 2 ^ 9) := by
  obtain ⟨zeroAllowed, read⟩ : ∃ zeroAllowed, readSize zeroAllowed value = .ok g :=
    accepted.elim (⟨false, ·⟩) (⟨true, ·⟩)
  obtain ⟨t, taken, rfl, fits, -⟩ := readSize_eq_ok_iff.mp read
  refine ⟨t, taken, fits, ?_⟩
  rcases lt_or_ge t.exactBytes (2 ^ 63 - 2 ^ 9) with below | reached
  · have fewer := toNat_gibToBytes_lt below
    exact ⟨fewer.le, iff_of_true (Nat.le_pred_of_lt fewer) below⟩
  · have limit := toNat_gibToBytes_eq reached fits
    exact ⟨limit.le, iff_of_false (by omega) reached.not_gt⟩

end Reading

/-- Half a thousandth of a mebibyte below 2⁶³ bytes, which is a little more than half a place. -/
theorem accepted_bytes_of_mebibytes :
    ∃ g, parseSize "8796093022207.9995Mi" = .ok g ∧ (gibToBytes g).toNat ≤ 2 ^ 63 - 1 := by
  let t : SizeText := ⟨"8796093022207".toList, some "9995".toList, .mebi⟩
  have taken : SizeText.ofChars? (Text.trimChars "8796093022207.9995Mi".toList) = some t := by
    decide +kernel
  have below : t.exactBytes < 2 ^ 63 - 2 ^ 9 := by decide +kernel
  have read : parseSize "8796093022207.9995Mi" = .ok t.gib := by
    refine readSize_eq_ok_iff.mpr ⟨t, taken, rfl, ?_, fun _ => ?_⟩
    · decide +kernel
    · decide +kernel
  obtain ⟨_, again, -, -, within⟩ := accepted_bytes (.inl read)
  rw [taken] at again
  cases again
  exact ⟨t.gib, read, within.mpr below⟩

/-- A size of 2³³ GiB is accepted, though it has one byte more than the greatest signed number of 64
bits. -/
theorem limit_is_accepted :
    ∃ g, parseSize "8589934592Gi" = .ok g ∧ parseRequirement "8589934592Gi" = .ok g ∧
      ¬ (gibToBytes g).toNat ≤ 2 ^ 63 - 1 := by
  let t : SizeText := ⟨"8589934592".toList, none, .gibi⟩
  have taken : SizeText.ofChars? (Text.trimChars "8589934592Gi".toList) = some t := by
    decide +kernel
  have fits : t.exactBytes ≤ 2 ^ 63 + 2 ^ 10 := by decide +kernel
  have limit : (gibToBytes t.gib).toNat = 2 ^ 63 :=
    toNat_gibToBytes_eq (by decide +kernel) fits
  refine ⟨t.gib, ?_, ?_, by omega⟩
  · exact readSize_eq_ok_iff.mpr ⟨t, taken, rfl, fits, fun _ => by decide +kernel⟩
  · exact readSize_eq_ok_iff.mpr ⟨t, taken, rfl, fits, nofun⟩

end NodeSupply
