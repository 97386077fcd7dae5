import SlotServe.Proofs.Binary.Rounding
import SlotServe.Proofs.Decimal.Digits

/-! The decimal that is written for a 32-bit number reads back as the number, also when its point is
moved. The search for it tries what it finds, so that only the decimal it falls back on needs a bound. -/
namespace SlotServe

open Binary (Scaled Format double zpow_eq_div exceedsDouble_eq_false)

namespace Binary

structure Scaled.IsSingle (scaled : Scaled) : Prop where
  few : scaled.significand < 2 ^ 24
  least : -149 ≤ scaled.exponent
  most : scaled.exponent ≤ 104
  full : scaled.exponent = -149 ∨ 2 ^ 24 ≤ 2 * scaled.significand

namespace Scaled.IsSingle

variable {scaled : Scaled}

theorem value_lt (single : scaled.IsSingle) : scaled.value < 2 ^ 128 := by
  have few : (scaled.significand : ℚ) < 2 ^ 24 := by exact_mod_cast single.few
  have small : (2 : ℚ) ^ scaled.exponent ≤ 2 ^ (104 : ℤ) := zpow_le_zpow_right₀ one_le_two single.most
  calc scaled.value < 2 ^ 24 * 2 ^ scaled.exponent := mul_lt_mul_of_pos_right few (by positivity)
    _ ≤ 2 ^ 24 * 2 ^ (104 : ℤ) := mul_le_mul_of_nonneg_left small (by positivity)
    _ = 2 ^ 128 := by norm_num

end Scaled.IsSingle

end Binary

namespace Decimal

def Numeral.value (numeral : Numeral) : ℚ := numeral.digits * 10 ^ numeral.exponent

namespace Numeral

variable {numeral : Numeral} {scaled : Scaled}

theorem fraction_pos (numeral : Numeral) : 0 < numeral.fraction.2 := Nat.pow_pos (by decide)

theorem fraction_value (numeral : Numeral) :
    (numeral.fraction.1 : ℚ) / numeral.fraction.2 = numeral.value := by
  simp only [fraction, value, zpow_eq_div (by decide : (10 : ℚ) ≠ 0), Nat.pow_eq]
  push_cast
  ring

/-- Zeros at the end of the digits make up for a lower power of ten. -/
theorem toDouble?_shift (numeral : Numeral) (negative whole : Bool) (places : Nat) :
    (Numeral.mk negative (numeral.digits * 10 ^ places) (numeral.exponent - places) whole).toDouble? =
      numeral.toDouble? := by
  by_cases none : numeral.digits = 0
  · simp [toDouble?, none]
  have some : numeral.digits * 10 ^ places ≠ 0 := Nat.mul_ne_zero none (Nat.pow_pos (by decide)).ne'
  set shifted : Numeral := ⟨negative, numeral.digits * 10 ^ places, numeral.exponent - places, whole⟩ with moved
  have top : shifted.top = numeral.top := by
    simp only [Numeral.top, moved, numDigits_shift none, Nat.cast_add]
    omega
  have value : shifted.value = numeral.value := by
    rw [moved, Numeral.value, Numeral.value, zpow_sub₀ (by decide), zpow_natCast]
    push_cast
    field_simp
  have same := Format.round_congr double shifted.fraction_pos numeral.fraction_pos
    (by rw [fraction_value, fraction_value, value])
  simp only [toDouble?, if_neg none, if_neg (show shifted.digits ≠ 0 from some), top, same]

/-- A numeral of moderate size for a number of the format reads as that number. -/
theorem toDouble?_of_value (single : scaled.IsSingle) (value : numeral.value = scaled.value)
    (below : numeral.top ≤ 310) (above : -330 ≤ numeral.top) :
    ∃ found, numeral.toDouble? = some found ∧ found.value = scaled.value := by
  rw [toDouble?]
  split
  next none =>
    refine ⟨_, rfl, ?_⟩
    rw [← value, Numeral.value, none]
    simp [Scaled.value]
  next some =>
    have rounded : (double.round numeral.fraction.1 numeral.fraction.2).value = scaled.value :=
      Format.round_value (fraction_pos numeral) ((fraction_value numeral).trans value)
        (single.few.trans (by decide)) (by have := single.least; simp only [double]; omega)
    have finite : (double.round numeral.fraction.1 numeral.fraction.2).exceedsDouble = false := by
      refine exceedsDouble_eq_false (Format.significand_round_le double (fraction_pos numeral)) ?_
      rw [rounded]
      refine single.value_lt.trans ?_
      apply pow_lt_pow_right₀ <;> norm_num
    rw [if_neg (by omega), if_neg (by omega)]
    exact ⟨_, if_neg (Bool.eq_false_iff.mp finite), rounded⟩

theorem onGrid_value (units : Nat) (exponent : Int) : (onGrid units exponent).value = units * 10 ^ exponent := rfl

end Numeral

theorem exact_value (scaled : Scaled) : (exact scaled).value = scaled.value := by
  unfold exact
  split
  next whole =>
    obtain ⟨places, positive⟩ := Int.eq_ofNat_of_zero_le whole
    rw [Numeral.onGrid_value, Scaled.value, zpow_zero, mul_one, positive, zpow_natCast, Int.toNat_natCast, Nat.pow_eq]
    push_cast
    rfl
  next fraction =>
    obtain ⟨places, negative⟩ : ∃ places : Nat, scaled.exponent = -places := ⟨scaled.exponent.natAbs, by omega⟩
    have ten : (10 : ℚ) ^ places = 5 ^ places * 2 ^ places := by rw [← mul_pow]; norm_num
    rw [Numeral.onGrid_value, Scaled.value, negative, neg_neg, Int.toNat_natCast, Nat.pow_eq, zpow_neg, zpow_neg,
      zpow_natCast, zpow_natCast, ten]
    push_cast
    field_simp

theorem exact_top {scaled : Scaled} (single : scaled.IsSingle) :
    (exact scaled).top ≤ 310 ∧ -330 ≤ (exact scaled).top := by
  have least := single.least
  have most := single.most
  have few := single.few
  unfold exact
  split
  next whole =>
    have short : numDigits (scaled.significand * 2 ^ scaled.exponent.toNat) ≤ 40 := by
      rw [numDigits_le_iff]
      calc scaled.significand * 2 ^ scaled.exponent.toNat ≤ 2 ^ 24 * 2 ^ 104 :=
            Nat.mul_le_mul few.le (Nat.pow_le_pow_right (by decide) (by omega))
        _ < 10 ^ 40 := by decide
    simp only [Numeral.top, onGrid, Nat.pow_eq]
    omega
  next fraction =>
    have short : numDigits (scaled.significand * 5 ^ (-scaled.exponent).toNat) ≤ 8 + (-scaled.exponent).toNat := by
      rw [numDigits_le_iff, Nat.pow_add]
      exact Nat.mul_lt_mul_of_lt_of_le (few.trans (by decide)) (Nat.pow_le_pow_left (by decide) _)
        (Nat.pow_pos (by decide))
    simp only [Numeral.top, onGrid, Nat.pow_eq]
    omega

theorem readsAs_value {scaled : Scaled} {numeral : Numeral}
    (reads : readsAs scaled.fraction.1 scaled.fraction.2 numeral = true) :
    ∃ found, numeral.toDouble? = some found ∧ found.value = scaled.value := by
  unfold readsAs at reads
  split at reads
  · cases reads
  next found read =>
    refine ⟨found, read, ?_⟩
    have cross := of_decide_eq_true reads
    have unit : (found.fraction.2 : ℚ) ≠ 0 := by exact_mod_cast found.fraction_pos.ne'
    have unit' : (scaled.fraction.2 : ℚ) ≠ 0 := by exact_mod_cast scaled.fraction_pos.ne'
    rw [← Scaled.fraction_value, ← Scaled.fraction_value, div_eq_div_iff unit unit']
    exact_mod_cast cross

/-- The shortest decimal of a 32-bit number reads as the 64-bit number of the same value. -/
theorem shortest_reads {scaled : Scaled} (single : scaled.IsSingle) :
    ∃ found, (shortest scaled).toDouble? = some found ∧ found.value = scaled.value := by
  unfold shortest
  dsimp only
  cases tried : List.find? (readsAs scaled.fraction.1 scaled.fraction.2) _ with
  | some numeral => exact readsAs_value (List.find?_some tried)
  | none =>
    have top := exact_top single
    exact Numeral.toDouble?_of_value single (exact_value scaled) top.1 top.2

def pointed (negative : Bool) (numeral : Numeral) : Numeral :=
  if 0 ≤ numeral.exponent then ⟨negative, numeral.digits * 10 ^ numeral.exponent.toNat * 10, -1, false⟩
  else ⟨negative, numeral.digits, numeral.exponent, false⟩

theorem pointed_reads (negative : Bool) (numeral : Numeral) :
    (pointed negative numeral).toDouble? = numeral.toDouble? := by
  unfold pointed
  split
  next whole =>
    have shifted := numeral.toDouble?_shift negative false (numeral.exponent.toNat + 1)
    have last : numeral.exponent - ((numeral.exponent.toNat + 1 : ℕ) : ℤ) = -1 := by omega
    rwa [last, pow_succ, ← mul_assoc] at shifted
  next => rfl

end Decimal

end SlotServe
