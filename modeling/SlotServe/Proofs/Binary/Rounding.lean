import Mathlib.Algebra.Order.Field.Power
import Mathlib.Data.Int.Log
import Mathlib.Data.Rat.Floor
import Mathlib.Tactic.FieldSimp
import Mathlib.Tactic.Linarith
import Mathlib.Tactic.Positivity
import Mathlib.Tactic.Ring
import SlotServe.Binary.Rounding

/-! Rounding of fractions, by the number that a fraction is. How the fraction is written does not matter,
and a number of the format rounds to itself, in its own form if it has no shorter significand to offer. -/
namespace SlotServe.Binary

def Scaled.value (scaled : Scaled) : ℚ := scaled.significand * 2 ^ scaled.exponent

/-- A power with an exponent of either sign, of which one of the two natural exponents is zero. -/
theorem zpow_eq_div {base : ℚ} (nonzero : base ≠ 0) (exponent : ℤ) :
    base ^ exponent = base ^ exponent.toNat / base ^ (-exponent).toNat := by
  have parts : exponent = exponent.toNat - (-exponent).toNat := by omega
  conv_lhs => rw [parts]
  rw [zpow_sub₀ nonzero, zpow_natCast, zpow_natCast]

theorem Scaled.fraction_pos (scaled : Scaled) : 0 < scaled.fraction.2 := Nat.pow_pos (by decide)

theorem Scaled.fraction_value (scaled : Scaled) :
    (scaled.fraction.1 : ℚ) / scaled.fraction.2 = scaled.value := by
  simp only [fraction, value, zpow_eq_div two_ne_zero, Nat.pow_eq]
  push_cast
  ring

/-- The power of two stands on the side of the fraction on which it is whole. -/
theorem shifted_value (num den : ℕ) (exponent : ℤ) :
    ((num * 2 ^ (-exponent).toNat : ℕ) : ℚ) / ((den * 2 ^ exponent.toNat : ℕ) : ℚ) = num / den / 2 ^ exponent := by
  rw [zpow_eq_div two_ne_zero]
  push_cast
  field_simp

variable {num den num' den' : ℕ}

theorem cross_of_ratio (some : 0 < den) (some' : 0 < den') (same : (num : ℚ) / den = num' / den') :
    num * den' = num' * den := by
  rw [div_eq_div_iff (by positivity) (by positivity)] at same
  exact_mod_cast same

theorem nearestEven_scaled (num den : ℕ) {factor : ℕ} (some : 0 < factor) :
    nearestEven (num * factor) (den * factor) = nearestEven num den := by
  have twice : 2 * (num % den * factor) = 2 * (num % den) * factor := (Nat.mul_assoc ..).symm
  simp only [nearestEven, Nat.mul_div_mul_right num den some, Nat.mul_mod_mul_right, twice,
    Nat.mul_lt_mul_right some, Nat.mul_left_inj some.ne']

theorem nearestEven_congr (some : 0 < den) (some' : 0 < den') (same : (num : ℚ) / den = num' / den') :
    nearestEven num den = nearestEven num' den' := by
  rw [← nearestEven_scaled num den some', cross_of_ratio some some' same, Nat.mul_comm den,
    nearestEven_scaled num' den' some]

theorem nearestEven_whole (some : 0 < den) {whole : ℕ} (same : (num : ℚ) / den = whole) :
    nearestEven num den = whole := by
  have one : (num : ℚ) / den = whole / (1 : ℕ) := by rw [same, Nat.cast_one, div_one]
  rw [nearestEven_congr some Nat.one_pos one]
  simp [nearestEven, Nat.mod_one]

theorem nearestEven_le {most : ℕ} (below : num < most * den) : nearestEven num den ≤ most := by
  have floor : num / den < most := Nat.div_lt_of_lt_mul (Nat.mul_comm .. ▸ below)
  unfold nearestEven
  dsimp only
  split <;> omega

namespace Format

variable (format : Format)

def fill (x : ℚ) : ℤ := Int.log 2 x + 1 - format.precision

variable {format} {x : ℚ} {exponent : ℤ}

theorem fill_le_iff (some : 0 < x) : format.fill x ≤ exponent ↔ x < 2 ^ (exponent + format.precision) := by
  have cut := Int.lt_zpow_iff_log_lt (x := exponent + format.precision) (by decide : 1 < 2) some
  rw [Nat.cast_ofNat] at cut
  rw [cut, fill]
  omega

theorem le_fill_iff (some : 0 < x) : exponent ≤ format.fill x ↔ 2 ^ (exponent + format.precision - 1) ≤ x := by
  have cut := Int.zpow_le_iff_le_log (x := exponent + format.precision - 1) (by decide : 1 < 2) some
  rw [Nat.cast_ofNat] at cut
  rw [cut, fill]
  omega

variable (format)

/-- The lengths of two numbers tell their ratio up to a factor of two, either way. -/
theorem log2_ratio (some : 0 < num) (some' : 0 < den) :
    (2 : ℚ) ^ ((num.log2 : ℤ) - den.log2 - 1) ≤ num / den ∧ (num : ℚ) / den < 2 ^ ((num.log2 : ℤ) - den.log2 + 1) := by
  have numLow : ((2 ^ num.log2 : ℕ) : ℚ) ≤ num := by exact_mod_cast Nat.log2_self_le some.ne'
  have numHigh : (num : ℚ) < ((2 ^ (num.log2 + 1) : ℕ) : ℚ) := by exact_mod_cast Nat.lt_log2_self
  have denLow : ((2 ^ den.log2 : ℕ) : ℚ) ≤ den := by exact_mod_cast Nat.log2_self_le some'.ne'
  have denHigh : (den : ℚ) ≤ ((2 ^ (den.log2 + 1) : ℕ) : ℚ) := by exact_mod_cast Nat.lt_log2_self.le
  push_cast at numLow numHigh denLow denHigh
  constructor
  · rw [sub_sub, zpow_sub₀ two_ne_zero, div_le_div_iff₀ (by positivity) (by positivity)]
    exact_mod_cast mul_le_mul numLow denHigh (by positivity) (by positivity)
  · rw [sub_add_eq_add_sub, zpow_sub₀ two_ne_zero, div_lt_div_iff₀ (by positivity) (by positivity)]
    exact_mod_cast mul_lt_mul numHigh denLow (by positivity) (by positivity)

/-- The first guess from the lengths of the two numbers is right or one too low. -/
theorem exponentFor_eq (some : 0 < num) (some' : 0 < den) :
    format.exponentFor num den = max format.lowest (format.fill (num / den)) := by
  have positive : (0 : ℚ) < num / den := by positivity
  obtain ⟨above, below⟩ := log2_ratio some some'
  set guess : ℤ := (num.log2 : ℤ) - den.log2 - format.precision with guessed
  have least : guess ≤ format.fill (num / den) := by
    rw [le_fill_iff positive, guessed, sub_add_cancel]
    exact above
  have most : format.fill (num / den) ≤ guess + 1 := by
    rw [fill_le_iff positive, guessed, sub_add_eq_add_sub, sub_add_cancel]
    exact below
  have full : num * 2 ^ (-guess).toNat < 2 ^ format.precision * (den * 2 ^ guess.toNat) ↔
      format.fill (num / den) ≤ guess := by
    rw [fill_le_iff positive, zpow_add₀ two_ne_zero, zpow_natCast, ← div_lt_iff₀' (by positivity),
      ← shifted_value, div_lt_iff₀ (by positivity)]
    exact_mod_cast Iff.rfl
  have cases : (if num * 2 ^ (-guess).toNat < 2 ^ format.precision * (den * 2 ^ guess.toNat) then guess
      else guess + 1) = format.fill (num / den) := by
    split <;> omega
  simp only [exponentFor, Nat.pow_eq, if_neg some.ne', ← guessed, cases]

theorem exponentFor_zero (den : ℕ) : format.exponentFor 0 den = format.lowest := by
  simp [exponentFor]

theorem lowest_le_exponentFor (num den : ℕ) : format.lowest ≤ format.exponentFor num den := by
  unfold exponentFor
  dsimp only
  split
  · exact le_refl _
  · exact le_max_left ..

theorem significand_round_le (some : 0 < den) : (format.round num den).significand ≤ 2 ^ format.precision := by
  simp only [round, Nat.pow_eq]
  refine nearestEven_le ?_
  rcases Nat.eq_zero_or_pos num with rfl | nonzero
  · rw [Nat.zero_mul]
    exact Nat.mul_pos (Nat.two_pow_pos _) (Nat.mul_pos some (Nat.two_pow_pos _))
  · have filled : format.fill (num / den) ≤ format.exponentFor num den :=
      exponentFor_eq format nonzero some ▸ le_max_right ..
    have positive : (0 : ℚ) < num / den := by positivity
    rw [fill_le_iff positive, add_comm, zpow_add₀ two_ne_zero, zpow_natCast, ← div_lt_iff₀ (by positivity),
      ← shifted_value, div_lt_iff₀ (by positivity)] at filled
    exact_mod_cast filled

/-- Rounding looks at the number that the fraction is and not at how it is written. -/
theorem round_congr (some : 0 < den) (some' : 0 < den') (same : (num : ℚ) / den = num' / den') :
    format.round num den = format.round num' den' := by
  have exponent : format.exponentFor num den = format.exponentFor num' den' := by
    have cross := cross_of_ratio some some' same
    rcases Nat.eq_zero_or_pos num with rfl | nonzero
    · obtain rfl : num' = 0 := by
        rw [Nat.zero_mul] at cross
        exact (Nat.mul_eq_zero.mp cross.symm).resolve_right some.ne'
      rw [exponentFor_zero, exponentFor_zero]
    · have nonzero' : 0 < num' := by
        refine Nat.pos_of_ne_zero fun none => ?_
        rw [none, Nat.zero_mul] at cross
        exact (Nat.mul_pos nonzero some').ne' cross
      rw [exponentFor_eq format nonzero some, exponentFor_eq format nonzero' some', same]
  simp only [round, exponent, Nat.pow_eq]
  congr 1
  refine nearestEven_congr (Nat.mul_pos some (Nat.pow_pos (by decide))) (Nat.mul_pos some' (Nat.pow_pos (by decide))) ?_
  rw [shifted_value, shifted_value, same]

variable {format} {scaled : Scaled}

section

variable (some : 0 < den) (value : (num : ℚ) / den = scaled.value) (few : scaled.significand < 2 ^ format.precision)
  (least : format.lowest ≤ scaled.exponent)

include some value few least

theorem exponentFor_le : format.exponentFor num den ≤ scaled.exponent := by
  rcases Nat.eq_zero_or_pos num with rfl | nonzero
  · rw [exponentFor_zero]
    exact least
  · rw [exponentFor_eq format nonzero some]
    refine max_le least ((fill_le_iff (by positivity)).mpr ?_)
    have few : (scaled.significand : ℚ) < 2 ^ format.precision := by exact_mod_cast few
    rw [value, Scaled.value, add_comm, zpow_add₀ two_ne_zero, zpow_natCast]
    exact mul_lt_mul_of_pos_right few (by positivity)

/-- A number of the format keeps its value; only its exponent may be lowered to fill the significand. -/
theorem round_exact : format.round num den =
    ⟨scaled.significand * 2 ^ (scaled.exponent - format.exponentFor num den).toNat, format.exponentFor num den⟩ := by
  have lower := exponentFor_le some value few least
  simp only [round, Nat.pow_eq, Scaled.mk.injEq, and_true]
  refine nearestEven_whole (Nat.mul_pos some (Nat.pow_pos (by decide))) ?_
  rw [shifted_value, value, Scaled.value, mul_div_assoc, ← zpow_sub₀ two_ne_zero]
  push_cast
  rw [← zpow_natCast, Int.toNat_of_nonneg (by omega)]

theorem round_value : (format.round num den).value = scaled.value := by
  have lower := exponentFor_le some value few least
  rw [round_exact some value few least, Scaled.value, Scaled.value]
  push_cast
  rw [← zpow_natCast, Int.toNat_of_nonneg (by omega), mul_assoc, ← zpow_add₀ two_ne_zero, sub_add_cancel]

/-- A significand that is full, or that cannot be filled, stays as it is. -/
theorem round_canonical (full : scaled.exponent = format.lowest ∨ 2 ^ format.precision ≤ 2 * scaled.significand) :
    format.round num den = scaled := by
  have lower := exponentFor_le some value few least
  have higher : scaled.exponent ≤ format.exponentFor num den := by
    rcases full with low | long
    · exact low ▸ lowest_le_exponentFor ..
    · have nonzero : 0 < scaled.significand := by
        have := Nat.two_pow_pos format.precision
        omega
      have positive : 0 < scaled.value := mul_pos (by exact_mod_cast nonzero) (by positivity)
      have numerator : 0 < num := by
        refine Nat.pos_of_ne_zero fun none => ?_
        rw [none, Nat.cast_zero, zero_div] at value
        exact positive.ne value
      rw [exponentFor_eq format numerator some]
      refine le_max_of_le_right ((le_fill_iff (value ▸ positive)).mpr ?_)
      have long : (2 : ℚ) ^ format.precision ≤ 2 * scaled.significand := by exact_mod_cast long
      rw [value, Scaled.value, add_sub_assoc, zpow_add₀ two_ne_zero, zpow_sub_one₀ two_ne_zero, zpow_natCast, mul_comm]
      refine mul_le_mul_of_nonneg_right ?_ (by positivity)
      linarith
  rw [round_exact some value few least, le_antisymm lower higher, Int.sub_self]
  simp

end

end Format

theorem Scaled.whole_lt {scaled : Scaled} {precision limit : ℕ} (few : scaled.significand ≤ 2 ^ precision)
    (wide : precision < limit) (small : scaled.value < 2 ^ limit) :
    scaled.significand * Nat.pow 2 scaled.exponent.toNat < Nat.pow 2 limit := by
  simp only [Nat.pow_eq]
  rcases le_total scaled.exponent 0 with negative | positive
  · rw [Int.toNat_of_nonpos negative, Nat.pow_zero, Nat.mul_one]
    exact few.trans_lt (Nat.pow_lt_pow_right Nat.one_lt_two wide)
  · rw [Scaled.value, ← Int.toNat_of_nonneg positive, zpow_natCast] at small
    exact_mod_cast small

theorem exceedsDouble_eq_false {scaled : Scaled} (few : scaled.significand ≤ 2 ^ 53) (small : scaled.value < 2 ^ 1024) :
    scaled.exceedsDouble = false := by
  have wide : 53 < 1024 := by decide
  unfold Scaled.exceedsDouble
  -- no step shall evaluate the power
  generalize 1024 = limit at wide small ⊢
  rw [decide_eq_false_iff_not, Nat.not_le]
  exact Scaled.whole_lt few wide small

end SlotServe.Binary
