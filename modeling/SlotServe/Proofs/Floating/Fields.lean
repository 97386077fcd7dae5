import Mathlib

/-! The fields of a floating-point word: a sign, an exponent and a fraction. Read as one number, exponent and
fraction together order the words of a sign as the numbers that they stand for. -/
namespace SlotServe.Floating

open Float.Model (Format UnpackedFloat)
open Float.Model.UnpackedFloat

variable {format : Format}

theorem toNat_unpackMantissa (bits : BitVec format.numBits) :
    (unpackMantissa bits).toNat = bits.toNat % 2 ^ format.mantissaBitsWithoutImplicit := by
  have := format.hm
  unfold unpackMantissa
  rw [BitVec.toNat_cast, BitVec.extractLsb_toNat, Nat.shiftRight_zero]
  congr 2
  omega

def exponentOf (format : Format) (word : ℕ) : ℕ :=
  word / 2 ^ format.mantissaBitsWithoutImplicit % 2 ^ format.exponentBits

theorem toNat_unpackExponent (bits : BitVec format.numBits) :
    (unpackExponent bits).toNat = exponentOf format bits.toNat := by
  have := format.he
  unfold unpackExponent exponentOf
  rw [BitVec.toNat_cast, BitVec.extractLsb_toNat, Nat.shiftRight_eq_div_pow]
  congr 2
  omega

def signOf (format : Format) (word : ℕ) : Sign :=
  if word / 2 ^ (format.mantissaBitsWithoutImplicit + format.exponentBits) = 0 then .positive else .negative

theorem ofBitVec_unpackSign (bits : BitVec format.numBits) :
    Sign.ofBitVec (unpackSign bits) = signOf format bits.toNat := by
  have top : (unpackSign bits).toNat =
      bits.toNat / 2 ^ (format.mantissaBitsWithoutImplicit + format.exponentBits) := by
    unfold unpackSign
    rw [BitVec.toNat_cast, BitVec.extractLsb_toNat, Nat.shiftRight_eq_div_pow, Nat.sub_self, Nat.zero_add,
      Nat.mod_eq_of_lt]
    rw [Nat.div_lt_iff_lt_mul (by positivity), ← pow_add]
    exact bits.isLt.trans_eq (by congr 1; unfold Format.numBits; omega)
  unfold Sign.ofBitVec signOf
  rw [← top]
  exact if_congr (by rw [← BitVec.toNat_inj]; rfl) rfl rfl

theorem minExponent_eq (format : Format) :
    format.minExponent = 1 - (format.exponentBias : ℤ) - format.mantissaBitsWithoutImplicit := by
  have positive : 1 ≤ 2 ^ (format.exponentBits - 1) := Nat.one_le_two_pow
  unfold Format.minExponent Format.exponentBias Format.mantissaBits
  rw [Nat.cast_sub positive]
  push_cast
  ring

def significand (format : Format) (exponent fraction : ℕ) : ℕ :=
  (if exponent = 0 then 0 else 2 ^ format.mantissaBitsWithoutImplicit) + fraction

/-- The number with given fields. The two lowest exponents stand for the same power of two. -/
def ofFields (format : Format) (sign : Sign) (exponent fraction : ℕ) : UnpackedFloat :=
  if exponent = 2 ^ format.exponentBits - 1 then
    if fraction = 0 then .infinity sign else .notANumber
  else if some : significand format exponent fraction = 0 then .zero sign
  else .finite sign (significand format exponent fraction) (format.minExponent + (exponent - 1 : ℕ))
    (Nat.pos_of_ne_zero some)

theorem unpack_components (bits : BitVec format.numBits) : unpack format bits =
    ofFields format (Sign.ofBitVec (unpackSign bits)) (unpackExponent bits).toNat (unpackMantissa bits).toNat := by
  have least := minExponent_eq format
  have full : (unpackExponent bits = -BitVec.ofNat format.exponentBits 1) ↔
      (unpackExponent bits).toNat = 2 ^ format.exponentBits - 1 := by
    rw [← BitVec.toNat_inj, BitVec.neg_one_eq_allOnes, BitVec.toNat_allOnes]
  have empty : (unpackExponent bits = BitVec.ofNat format.exponentBits 0) ↔ (unpackExponent bits).toNat = 0 := by
    rw [← BitVec.toNat_inj, BitVec.toNat_zero]
  have bare : (unpackMantissa bits = BitVec.ofNat format.mantissaBitsWithoutImplicit 0) ↔
      (unpackMantissa bits).toNat = 0 := by
    rw [← BitVec.toNat_inj, BitVec.toNat_zero]
  have leading : (1#1 ++ unpackMantissa bits).toNat =
      2 ^ format.mantissaBitsWithoutImplicit + (unpackMantissa bits).toNat := by
    rw [BitVec.toNat_append, ← Nat.shiftLeft_add_eq_or_of_lt (unpackMantissa bits).isLt]
    simp [Nat.shiftLeft_eq]
  unfold UnpackedFloat.unpack ofFields significand
  dsimp only
  by_cases top : (unpackExponent bits).toNat = 2 ^ format.exponentBits - 1
  · rw [if_pos (full.mpr top), if_pos top]
    simp only [bare]
  · rw [if_neg (mt full.mp top), if_neg top]
    by_cases bottom : (unpackExponent bits).toNat = 0
    · rw [if_pos (empty.mpr bottom)]
      simp only [bare, bottom, if_true, Nat.zero_add]
      split
      · rfl
      · congr 1
        rw [least]
        push_cast
        ring
    · rw [if_neg (mt empty.mp bottom), dif_neg (by simp [bottom])]
      simp only [leading, bottom, if_false]
      congr 1
      rw [least, Nat.cast_sub (Nat.one_le_iff_ne_zero.mpr bottom)]
      push_cast
      ring

theorem unpack_eq (bits : BitVec format.numBits) : unpack format bits =
    ofFields format (signOf format bits.toNat) (exponentOf format bits.toNat)
      (bits.toNat % 2 ^ format.mantissaBitsWithoutImplicit) := by
  rw [← ofBitVec_unpackSign, ← toNat_unpackExponent, ← toNat_unpackMantissa]
  exact unpack_components bits

theorem mul_add_lt_iff {width high low high' low' : ℕ} (within : low < width) (within' : low' < width) :
    high * width + low < high' * width + low' ↔ high < high' ∨ high = high' ∧ low < low' := by
  constructor
  · intro below
    rcases lt_trichotomy high high' with less | rfl | more
    · exact .inl less
    · exact .inr ⟨rfl, by omega⟩
    · have := Nat.mul_le_mul_right width more
      rw [Nat.succ_mul] at this
      omega
  · rintro (less | ⟨rfl, less⟩)
    · have := Nat.mul_le_mul_right width less
      rw [Nat.succ_mul] at this
      omega
    · omega

def signed {κ : Type} [Neg κ] (sign : Sign) (size : κ) : κ :=
  match sign with
  | .positive => size
  | .negative => -size

section Compare

variable {κ : Type} [LinearOrder κ] {high high' : ℤ} {low low' : ℕ} {key key' : κ}

/-- A comparison of two parts, one after the other, is one of keys that are ordered so. -/
theorem compare_then_eq (below : key < key' ↔ high < high' ∨ high = high' ∧ low < low')
    (above : key' < key ↔ high' < high ∨ high' = high ∧ low' < low) :
    (compare high high').then (compare low low') = compare key key' := by
  rcases lt_trichotomy key key' with less | same | more
  · rw [compare_lt_iff_lt.mpr less]
    rcases below.mp less with less | ⟨rfl, less⟩
    · rw [compare_lt_iff_lt.mpr less]
      rfl
    · rw [compare_eq_iff_eq.mpr rfl, compare_lt_iff_lt.mpr less]
      rfl
  · have equal : high = high' ∧ low = low' := by
      have := below.not.mp (not_lt_of_ge same.ge)
      have := above.not.mp (not_lt_of_ge same.le)
      omega
    rw [compare_eq_iff_eq.mpr same, compare_eq_iff_eq.mpr equal.1, compare_eq_iff_eq.mpr equal.2]
    rfl
  · rw [compare_gt_iff_gt.mpr more]
    rcases above.mp more with more | ⟨rfl, more⟩
    · rw [compare_gt_iff_gt.mpr more]
      rfl
    · rw [compare_eq_iff_eq.mpr rfl, compare_gt_iff_gt.mpr more]
      rfl

variable [AddCommGroup κ] [IsOrderedAddMonoid κ]

/-- Finite numbers compare as any sizes with their signs do that order exponents and significands in turn. -/
theorem compare_finite (sign sign' : Sign) {some : 0 < low} {some' : 0 < low'} (size : 0 < key) (size' : 0 < key')
    (below : key < key' ↔ high < high' ∨ high = high' ∧ low < low')
    (above : key' < key ↔ high' < high ∨ high' = high ∧ low' < low) :
    UnpackedFloat.compare (.finite sign low high some) (.finite sign' low' high' some') =
      .some (compare (signed sign key) (signed sign' key')) := by
  cases sign <;> cases sign' <;> refine congrArg Option.some ?_
  case positive.positive => exact compare_then_eq below above
  case negative.negative =>
    have turned : (compare high high').then (compare low low') = compare (-key') (-key) :=
      compare_then_eq (neg_lt_neg_iff.trans below) (neg_lt_neg_iff.trans above)
    rw [turned]
    exact (Std.OrientedCmp.eq_swap).symm
  case positive.negative =>
    exact (compare_gt_iff_gt.mpr ((neg_neg_of_pos size').trans size)).symm
  case negative.positive =>
    exact (compare_lt_iff_lt.mpr ((neg_neg_of_pos size).trans size')).symm

end Compare

def unsignedWord (format : Format) (exponent fraction : ℕ) : ℕ :=
  exponent * 2 ^ format.mantissaBitsWithoutImplicit + fraction

def infinite (format : Format) : ℕ := (2 ^ format.exponentBits - 1) * 2 ^ format.mantissaBitsWithoutImplicit

theorem infinite_pos (format : Format) : 0 < infinite format := by
  have range : 2 ≤ 2 ^ format.exponentBits := Nat.pow_le_pow_right (Nat.succ_pos 1) format.he
  exact Nat.mul_pos (by omega) (Nat.two_pow_pos _)

structure Ordered (format : Format) (exponent fraction : ℕ) : Prop where
  within : fraction < 2 ^ format.mantissaBitsWithoutImplicit
  number : unsignedWord format exponent fraction ≤ infinite format

variable {sign sign' : Sign} {exponent exponent' fraction fraction' : ℕ}

theorem significand_pos_iff : 0 < significand format exponent fraction ↔ 0 < unsignedWord format exponent fraction := by
  have unit : 0 < 2 ^ format.mantissaBitsWithoutImplicit := Nat.two_pow_pos _
  unfold significand unsignedWord
  rcases Nat.eq_zero_or_pos exponent with rfl | some
  · simp
  · have := Nat.mul_le_mul_right (2 ^ format.mantissaBitsWithoutImplicit) some
    rw [if_neg some.ne']
    omega

theorem ofFields_cases (sign : Sign) (ordered : Ordered format exponent fraction) :
    (ofFields format sign exponent fraction = .infinity sign ∧
        unsignedWord format exponent fraction = infinite format) ∨
      (ofFields format sign exponent fraction = .zero sign ∧ unsignedWord format exponent fraction = 0) ∨
      ∃ positive, ofFields format sign exponent fraction =
          .finite sign (significand format exponent fraction) (format.minExponent + (exponent - 1 : ℕ)) positive ∧
        0 < unsignedWord format exponent fraction ∧ unsignedWord format exponent fraction < infinite format := by
  obtain ⟨within, number⟩ := ordered
  have unit : 0 < 2 ^ format.mantissaBitsWithoutImplicit := Nat.two_pow_pos _
  unfold ofFields
  by_cases top : exponent = 2 ^ format.exponentBits - 1
  · have bare : fraction = 0 := by
      unfold unsignedWord infinite at number
      rw [top] at number
      omega
    exact .inl ⟨by rw [if_pos top, if_pos bare], by rw [unsignedWord, infinite, top, bare, Nat.add_zero]⟩
  · rw [if_neg top]
    by_cases none : significand format exponent fraction = 0
    · refine .inr (.inl ⟨by rw [dif_pos none], ?_⟩)
      exact Nat.eq_zero_of_not_pos fun some => (significand_pos_iff.mpr some).ne' none
    · have some := Nat.pos_of_ne_zero none
      refine .inr (.inr ⟨some, by rw [dif_neg none], significand_pos_iff.mp some, ?_⟩)
      refine Nat.lt_of_le_of_ne number fun full => top ?_
      have quotient := congrArg (· / 2 ^ format.mantissaBitsWithoutImplicit) full
      unfold unsignedWord infinite at quotient
      rwa [Nat.mul_div_cancel _ unit, Nat.mul_comm, Nat.mul_add_div unit, Nat.div_eq_of_lt within] at quotient

theorem unsignedWord_lt_iff (within : fraction < 2 ^ format.mantissaBitsWithoutImplicit)
    (within' : fraction' < 2 ^ format.mantissaBitsWithoutImplicit) :
    unsignedWord format exponent fraction < unsignedWord format exponent' fraction' ↔
      format.minExponent + (exponent - 1 : ℕ) < format.minExponent + (exponent' - 1 : ℕ) ∨
        format.minExponent + (exponent - 1 : ℕ) = format.minExponent + (exponent' - 1 : ℕ) ∧
          significand format exponent fraction < significand format exponent' fraction' := by
  unfold unsignedWord significand
  rw [mul_add_lt_iff within within']
  split <;> split <;> omega

/-- Numbers compare as their fields do, read as one number with its sign. -/
theorem compare_ofFields (sign sign' : Sign) (ordered : Ordered format exponent fraction)
    (ordered' : Ordered format exponent' fraction') :
    UnpackedFloat.compare (ofFields format sign exponent fraction) (ofFields format sign' exponent' fraction') =
      some (compare (signed sign (unsignedWord format exponent fraction : ℤ))
        (signed sign' (unsignedWord format exponent' fraction' : ℤ))) := by
  have unit := infinite_pos format
  have less {left right : ℤ} (lt : left < right) : some .lt = some (compare left right) :=
    congrArg some (compare_lt_iff_lt.mpr lt).symm
  have more {left right : ℤ} (gt : right < left) : some .gt = some (compare left right) :=
    congrArg some (compare_gt_iff_gt.mpr gt).symm
  have same {left right : ℤ} (eq : left = right) : some .eq = some (compare left right) :=
    congrArg some (compare_eq_iff_eq.mpr eq).symm
  -- Two finite numbers compare part by part; in the other cases sign and kind decide.
  rcases ofFields_cases sign ordered with ⟨eq, size⟩ | ⟨eq, size⟩ | ⟨_, eq, size⟩ <;>
    rcases ofFields_cases sign' ordered' with ⟨eq', size'⟩ | ⟨eq', size'⟩ | ⟨_, eq', size'⟩ <;>
    rw [eq, eq']
  case inr.inr.inr.inr =>
    refine compare_finite sign sign' (by omega) (by omega) ?_ ?_ <;> rw [Int.ofNat_lt]
    · exact unsignedWord_lt_iff ordered.within ordered'.within
    · exact unsignedWord_lt_iff ordered'.within ordered.within
  all_goals
    cases sign <;> cases sign' <;> simp only [UnpackedFloat.compare, signed] <;>
      first | exact less (by omega) | exact more (by omega) | exact same (by omega)

end SlotServe.Floating
