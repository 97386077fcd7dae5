import SlotServe.Proofs.Binary32.Exponential

/-! Bounds of the natural logarithm between one half and `2 ^ 27`. The bits of the number are split into octaves and a
factor about one; neither the table nor the cubic takes the result far from the logarithm of the octaves. -/
namespace SlotServe.Binary32

open Float.Model (Format UnpackedFloat)
open Float.Model.UnpackedFloat
open Floating

-- Bounds of the format are checked by computing with fractions.
unseal Rat.mul Rat.inv Rat.add Rat.sub

theorem hasValue_octaves {octaves : ℤ} (least : -1 ≤ octaves) (most : octaves ≤ 28) :
    HasValue (Float.ofInt octaves) octaves := by
  have table : ∀ count < 30, exponentOf .binary64 (Float.ofInt ((count : ℕ) - 1)).toBits.toNat < 2047 ∧
      valueOf .binary64 (Float.ofInt ((count : ℕ) - 1)).toBits.toNat = (count : ℕ) - 1 := by decide +kernel
  obtain ⟨finite, value⟩ := table (octaves + 1).toNat (by omega)
  have same : (((octaves + 1).toNat : ℕ) : ℤ) - 1 = octaves := by omega
  have same' : (((octaves + 1).toNat : ℕ) : ℚ) - 1 = octaves := by exact_mod_cast same
  rw [same] at finite value
  rw [← same', ← value]
  exact hasValue_word (x := Float.ofInt octaves) finite

/-- The distance of the bits from those of the least factor, counted also below zero, and its octaves. -/
theorem octaves_eq {bits : UInt32} (least : 0x3f000000 ≤ bits.toNat) (most : bits.toNat < 0x4d800000) :
    ((bits - 0x3f330000).toInt32 >>> 23).toInt = ((bits.toNat : ℤ) - 0x3f330000) / 2 ^ 23 := by
  have offset : (bits - 0x3f330000).toNat = (2 ^ 32 - 0x3f330000 + bits.toNat) % 2 ^ 32 := UInt32.toNat_sub bits _
  have signed : (bits - 0x3f330000).toBitVec.toInt = (bits.toNat : ℤ) - 0x3f330000 := by
    rw [BitVec.toInt_eq_toNat_cond]
    change (if 2 * (bits - 0x3f330000).toNat < 2 ^ 32 then ((bits - 0x3f330000).toNat : ℤ)
      else ((bits - 0x3f330000).toNat : ℤ) - (2 ^ 32 : ℕ)) = _
    rw [offset]
    split <;> omega
  change (BitVec.sshiftRight' (bits - 0x3f330000).toBitVec (23#32)).toInt = _
  rw [BitVec.toInt_sshiftRight', signed, Int.shiftRight_eq_div_pow]
  rfl

theorem and_octave_mask {offset : ℕ} (inside : offset < 2 ^ 32) : offset &&& 0xff800000 = offset / 2 ^ 23 * 2 ^ 23 := by
  have mask : 0xff800000 = (2 ^ 9 - 1) <<< 23 := by decide
  rw [mask, ← Nat.shiftLeft_eq, ← Nat.shiftRight_eq_div_pow]
  apply Nat.eq_of_testBit_eq
  intro i
  simp only [Nat.testBit_and, Nat.testBit_shiftLeft, Nat.testBit_shiftRight, Nat.testBit_two_pow_sub_one]
  by_cases low : 23 ≤ i
  · by_cases high : i < 32
    · simp [low, show i - 23 < 9 by omega]
    · have none : offset.testBit i = false :=
        Nat.testBit_lt_two_pow (inside.trans_le (Nat.pow_le_pow_right (Nat.succ_pos 1) (by omega)))
      simp [low, none]
  · simp [low]

theorem factor_within (bits : UInt32) :
    Within (Float32.ofBits (bits - ((bits - 0x3f330000) &&& 0xff800000))) (1 / 2) 2 := by
  have offset : (bits - 0x3f330000).toNat = (2 ^ 32 - 0x3f330000 + bits.toNat) % 2 ^ 32 := UInt32.toNat_sub bits _
  have masked : ((bits - 0x3f330000) &&& 0xff800000).toNat = (bits - 0x3f330000).toNat / 2 ^ 23 * 2 ^ 23 := by
    rw [UInt32.toNat_and]
    exact and_octave_mask (bits - 0x3f330000).toNat_lt
  obtain ⟨rest, small, factor⟩ : ∃ rest < 2 ^ 23,
      (bits - ((bits - 0x3f330000) &&& 0xff800000)).toNat = 0x3f330000 + rest := by
    refine ⟨(bits - 0x3f330000).toNat % 2 ^ 23, Nat.mod_lt _ (by decide), ?_⟩
    rw [UInt32.toNat_sub, masked]
    omega
  -- The factors lie on both sides of one, where the exponent field changes.
  rcases Nat.lt_or_ge rest 0x4d0000 with low | high
  · have fields : (bits - ((bits - 0x3f330000) &&& 0xff800000)).toNat = unsignedWord .binary32 126 (0x330000 + rest) := by
      rw [factor]
      change _ = 126 * 2 ^ 23 + _
      omega
    obtain ⟨field, above, below⟩ := valueOf_range fields (by decide) (by decide) (by change _ < 2 ^ 23; omega)
    refine within_ofBits (by omega) ?_ ?_
    · exact above.trans' (by decide)
    · exact below.le.trans (by decide)
  · have fields : (bits - ((bits - 0x3f330000) &&& 0xff800000)).toNat = unsignedWord .binary32 127 (rest - 0x4d0000) := by
      rw [factor]
      change _ = 127 * 2 ^ 23 + _
      omega
    obtain ⟨field, above, below⟩ := valueOf_range fields (by decide) (by decide) (by change _ < 2 ^ 23; omega)
    refine within_ofBits (by omega) ?_ ?_
    · exact above.trans' (by decide)
    · exact below.le.trans (by decide)

/-- The cubic adds little to the logarithms of the octaves and of the point. -/
theorem logarithm_cubic_within {rest base : Float} (small : Within rest (-1) 3) (octaves : Within base (-2) 29) :
    Within ((logarithmCubic * (rest * rest) + (logarithmSquare * rest + logarithmLine)) * (rest * rest) +
      (base + rest)) (-64) 64 := by
  have cubic : Within logarithmCubic (-1 / 2) 0 := within_ofBits64 (by decide) (by decide) (by decide)
  have line : Within logarithmLine (-1 / 2) 0 := within_ofBits64 (by decide) (by decide) (by decide)
  have square : Within logarithmSquare 0 (1 / 2) := within_ofBits64 (by decide) (by decide) (by decide)
  have squared : Within (rest * rest) (-3) 9 := small.mul small (by decide)
  have first : Within (logarithmSquare * rest) (-1 / 2) (3 / 2) := square.mul small (by decide)
  have upper : Within (logarithmSquare * rest + logarithmLine) (-1) (3 / 2) := first.add line (by decide)
  have second : Within (logarithmCubic * (rest * rest)) (-9 / 2) (3 / 2) := cubic.mul squared (by decide)
  have factor : Within (logarithmCubic * (rest * rest) + (logarithmSquare * rest + logarithmLine)) (-11 / 2) 3 :=
    second.add upper (by decide)
  have high : Within ((logarithmCubic * (rest * rest) + (logarithmSquare * rest + logarithmLine)) * (rest * rest))
      (-50) 27 := factor.mul squared (by decide)
  have low : Within (base + rest) (-3) 32 := octaves.add small (by decide)
  exact high.add low (by decide)

/-- The logarithm of the bits is about that of the octaves. -/
theorem logarithmOfBits_within {bits : UInt32} (least : 0x3f000000 ≤ bits.toNat) (most : bits.toNat < 0x4d800000) :
    Within (logarithmOfBits bits) (-64) 64 := by
  have octaves := octaves_eq least most
  have points : ∀ i < 16, exponentOf .binary64 (reciprocals.getD i (0, 0)).1.toNat < 2047 ∧
      1 / 2 ≤ valueOf .binary64 (reciprocals.getD i (0, 0)).1.toNat ∧
      valueOf .binary64 (reciprocals.getD i (0, 0)).1.toNat ≤ 2 ∧
      exponentOf .binary64 (reciprocals.getD i (0, 0)).2.toNat < 2047 ∧
      -1 / 2 ≤ valueOf .binary64 (reciprocals.getD i (0, 0)).2.toNat ∧
      valueOf .binary64 (reciprocals.getD i (0, 0)).2.toNat ≤ 1 / 2 := by decide +kernel
  have index : (((bits - 0x3f330000) >>> 19) % 16).toNat < 16 := by
    rw [UInt32.toNat_mod]
    exact Nat.mod_lt _ (by decide)
  obtain ⟨finite, low, high, finite', low', high'⟩ := points _ index
  have reciprocal := within_ofBits64 finite low high
  have point := within_ofBits64 finite' low' high'
  have count : Within (Float.ofInt ((bits - 0x3f330000).toInt32 >>> 23).toInt) (-1) 28 := by
    have lower : -1 ≤ ((bits - 0x3f330000).toInt32 >>> 23).toInt := by omega
    have upper : ((bits - 0x3f330000).toInt32 >>> 23).toInt ≤ 28 := by omega
    exact ⟨_, hasValue_octaves lower upper, by exact_mod_cast lower, by exact_mod_cast upper⟩
  have factor : Within (widen (Float32.ofBits (bits - ((bits - 0x3f330000) &&& 0xff800000)))) (1 / 2) 2 := by
    obtain ⟨v, has, above, below⟩ := factor_within bits
    exact ⟨v, hasValue_widen has, above, below⟩
  have turn : Within octave (1 / 2) 1 := within_ofBits64 (by decide) (by decide) (by decide)
  have product : Within _ (1 / 4) 4 := factor.mul reciprocal (by decide)
  have turned : Within _ (-1) 28 := count.mul turn (by decide)
  exact logarithm_cubic_within (product.sub one_within (by decide)) (point.add turned (by decide))

theorem beq_infinity {x : Float32} {v : ℚ} (has : HasValue x v) : (x == infinity) = false := by
  have holds : Holds .binary32 x.toModel.unpack v := has
  change (x.toModel.unpack.compare (.infinity .positive) == some .eq) = false
  generalize x.toModel.unpack = unpacked at holds
  cases holds with
  | zero sign => rfl
  | @finite sign => cases sign <;> rfl

theorem log_within {x : Float32} {v : ℚ} (has : HasValue x v) (least : 1 / 2 ≤ v) (most : v < 2 ^ 28) :
    Within (log x) (-64) 64 := by
  have lower : (2 : ℚ) ^ (-1 : ℤ) ≤ v := by
    rw [zpow_neg_one]
    linarith
  have upper : v < (2 : ℚ) ^ (28 : ℤ) := by exact_mod_cast most
  obtain ⟨exponent, fraction, within, bits, -, -, least', most'⟩ :=
    Holds.normal_fields has lower upper (by decide)
  change -1 + 127 ≤ (exponent : ℤ) at least'
  change (exponent : ℤ) < 28 + 127 at most'
  change fraction < 2 ^ 23 at within
  have bits : x.toBits.toNat = exponent * 2 ^ 23 + fraction := bits
  have normal : ¬ x.toBits < 0x00800000 := by
    rw [UInt32.lt_iff_toNat_lt]
    change ¬ x.toBits.toNat < 0x00800000
    omega
  have positive : ¬ x < 0 := by
    rw [lt_iff_lt has hasValue_zero]
    linarith
  have nonzero : (x == 0) = false := by
    rw [beq_eq has hasValue_zero]
    exact decide_eq_false (by linarith)
  unfold log
  dsimp only
  rw [isNaN_eq_false has, beq_infinity has, nonzero, Bool.false_or, if_neg (by simpa using positive),
    if_neg Bool.false_ne_true, if_neg Bool.false_ne_true, if_neg normal]
  split
  · exact hasValue_zero.within (by norm_num) (by norm_num)
  · have within : Within (logarithmOfBits x.toBits) (-64) 64 := logarithmOfBits_within (by omega) (by omega)
    obtain ⟨l, has, above, below⟩ := within
    obtain ⟨near, computed, nearest⟩ := narrow_near has (bounds_of_sound (by decide)) above below
    exact computed.within (nearest.ge (exact_of_plain (by decide)) above)
      (nearest.le (exact_of_plain (by decide)) below)

end SlotServe.Binary32
