import SlotServe.Binary32.Exponential
import SlotServe.Proofs.Binary32.Values

/-! Bounds of the exponential. The argument is split into whole steps and a rest of one step at most; the steps go
into the exponent of a power of two, and the cubic of the rest is close to one. -/
namespace SlotServe.Binary32

open Float.Model (Format)
open Floating

-- Bounds of the format are checked by computing with fractions.
unseal Rat.mul Rat.inv Rat.add Rat.sub

theorem hasValue_wholeShift : HasValue wholeShift 6755399441055744 := by
  have value : valueOf .binary64 0x4338000000000000 = 6755399441055744 := by decide
  rw [← value]
  exact hasValue_ofWord (α := Float) 0x4338000000000000#64 (by decide)

/-- Adding the shift rounds to a whole number. -/
theorem whole_steps {steps : Float} {s : ℚ} (has : HasValue steps s) (least : -2 ^ 20 ≤ s) (most : s ≤ 2 ^ 20) :
    ∃ k : ℤ, HasValue (steps + wholeShift) (6755399441055744 + k) ∧ ⌊s⌋ ≤ k ∧ k ≤ ⌈s⌉ := by
  have range : Bounds .binary64 (2 ^ 52) (2 ^ 53) := bounds_of_sound (by decide)
  obtain ⟨near, holds, nearest⟩ := has.add_near hasValue_wholeShift range (by linarith) (by linarith)
  have floor := Int.floor_le s
  have ceil := Int.le_ceil s
  have lower : -2 ^ 20 ≤ ⌊s⌋ := Int.le_floor.mpr (by exact_mod_cast least)
  have upper : ⌈s⌉ ≤ 2 ^ 20 := Int.ceil_le.mpr (by exact_mod_cast most)
  have close := Int.floor_le_ceil s
  have small (number : ℤ) (below : -2 ^ 20 ≤ number) (above : number ≤ 2 ^ 20) :
      Exact .binary64 ((6755399441055744 + number : ℤ) : ℚ) :=
    exact_intCast (by rw [abs_le]; constructor <;> norm_num [Format.mantissaBits] <;> omega)
  have above : ((6755399441055744 + ⌊s⌋ : ℤ) : ℚ) ≤ near :=
    nearest.ge (small ⌊s⌋ lower (close.trans upper)) (by push_cast; linarith)
  have below : near ≤ ((6755399441055744 + ⌈s⌉ : ℤ) : ℚ) :=
    nearest.le (small ⌈s⌉ (lower.trans close) upper) (by push_cast; linarith)
  obtain ⟨number, rfl⟩ := nearest.exact.multiple 0 (by
    have positive : (4503599627370496 : ℚ) < ((6755399441055744 + ⌊s⌋ : ℤ) : ℚ) := by exact_mod_cast (by omega)
    exact (positive.trans_le above).trans_le (le_abs_self near))
  rw [zpow_zero, mul_one] at holds above below
  refine ⟨number - 6755399441055744, ?_, ?_, ?_⟩
  · push_cast
    rwa [add_sub_cancel]
  · have := Int.cast_le.mp above
    omega
  · have := Int.cast_le.mp below
    omega

/-- The low bits of the shifted number count the steps. -/
theorem toNat_shifted {z : Float} {k : ℤ} (has : HasValue z (6755399441055744 + k)) (least : -2 ^ 20 ≤ k)
    (most : k ≤ 2 ^ 20) : (z.toBits.toNat : ℤ) = 0x4338000000000000 + k := by
  have lower : (2 : ℚ) ^ (52 : ℤ) ≤ 6755399441055744 + k := by
    have := (Int.cast_le (R := ℚ)).mpr least
    norm_num at this ⊢
    linarith
  have upper : (6755399441055744 + k : ℚ) < 2 ^ (53 : ℤ) := by
    have := (Int.cast_le (R := ℚ)).mpr most
    norm_num at this ⊢
    linarith
  have holds : Holds .binary64 z.toModel.unpack (6755399441055744 + k) := has
  obtain ⟨exponent, fraction, within, bits, value, -, least, most⟩ := holds.normal_fields lower upper (by decide)
  -- Both ends of the range have one exponent.
  have field : exponent = 1075 := by
    change 52 + 1023 ≤ (exponent : ℤ) at least
    change (exponent : ℤ) < 53 + 1023 at most
    omega
  subst field
  have units : (6755399441055744 + k : ℚ) = ((2 ^ 52 + fraction : ℕ) : ℤ) := by
    rw [value]
    change ((2 ^ 52 + fraction : ℕ) : ℚ) * 2 ^ (0 : ℤ) = _
    simp
  have units : (6755399441055744 + k : ℤ) = (2 ^ 52 + fraction : ℕ) := by exact_mod_cast units
  have bits : z.toBits.toNat = 1075 * 2 ^ 52 + fraction := bits
  omega

/-- The sum of a root of two and the steps, moved up to the exponent, is a power of two times the root. -/
theorem scale_within {whole : UInt64} {k : ℤ} (bits : (whole.toNat : ℤ) = 0x4338000000000000 + k)
    (least : -2 ^ 14 ≤ k) (most : k ≤ 2 ^ 14) :
    Within (Float.ofBits (rootBits.getD (whole % 32).toNat 0 + (whole <<< 47))) (2 ^ (k / 32)) (2 ^ (k / 32 + 1)) := by
  have roots : ∀ i < 32, 1023 * 2 ^ 52 ≤ (rootBits.getD i 0).toNat + i * 2 ^ 47 ∧
      (rootBits.getD i 0).toNat + i * 2 ^ 47 < 1024 * 2 ^ 52 := by decide +kernel
  have index : (whole % 32).toNat = whole.toNat % 32 := UInt64.toNat_mod whole 32
  obtain ⟨above, below⟩ := roots (whole.toNat % 32) (Nat.mod_lt _ (by decide))
  obtain ⟨fraction, root⟩ := Nat.le.dest above
  obtain ⟨exponent, field⟩ : ∃ exponent : ℕ, (exponent : ℤ) = 1023 + k / 32 := ⟨(1023 + k / 32).toNat, by omega⟩
  have sum : (rootBits.getD (whole % 32).toNat 0 + (whole <<< 47)).toNat = exponent * 2 ^ 52 + fraction := by
    have shifted : (whole <<< 47).toNat = whole.toNat * 2 ^ 47 % 2 ^ 64 := by
      rw [UInt64.toNat_shiftLeft, Nat.shiftLeft_eq]
      rfl
    rw [UInt64.toNat_add, shifted, index]
    omega
  have fields : _ = unsignedWord .binary64 exponent fraction := sum
  obtain ⟨finite, lower, upper⟩ := valueOf_range fields (by omega)
    (by change exponent < 2047; omega) (by change fraction < 2 ^ 52; omega)
  have power : (exponent - Format.binary64.exponentBias : ℤ) = k / 32 := by
    change (exponent : ℤ) - 1023 = k / 32
    omega
  rw [power] at lower upper
  exact within_ofBits64 (by omega) lower upper.le

/-- The whole steps of an argument: they are taken off exactly, and what is left is one step at most. -/
theorem rest_within {steps : Float} {s : ℚ} {k : ℤ} (has : HasValue steps s)
    (shifted : HasValue (steps + wholeShift) (6755399441055744 + k)) (floor : ⌊s⌋ ≤ k) (ceil : k ≤ ⌈s⌉)
    (least : -2 ^ 14 ≤ k) (most : k ≤ 2 ^ 14) :
    Within (steps - (steps + wholeShift - wholeShift)) (-1) 1 := by
  have range : Bounds .binary64 (-2 ^ 14) (2 ^ 14) := bounds_of_sound (by decide)
  have least : (-2 ^ 14 : ℚ) ≤ k := by exact_mod_cast least
  have most : (k : ℚ) ≤ 2 ^ 14 := by exact_mod_cast most
  obtain ⟨near, whole, nearest⟩ := shifted.sub_near hasValue_wholeShift range (by linarith) (by linarith)
  rw [add_sub_cancel_left] at nearest
  have exact : Exact .binary64 (k : ℚ) := by
    refine exact_intCast (abs_le.mpr ⟨?_, ?_⟩) <;>
      · have least : -2 ^ 14 ≤ k := by exact_mod_cast least
        have most : k ≤ 2 ^ 14 := by exact_mod_cast most
        norm_num [Format.mantissaBits]
        omega
  rw [nearest.eq exact] at whole
  have floor : (⌊s⌋ : ℚ) ≤ k := by exact_mod_cast floor
  have ceil : (k : ℚ) ≤ ⌈s⌉ := by exact_mod_cast ceil
  have := Int.lt_floor_add_one s
  have := Int.ceil_lt_add_one s
  exact has.sub whole (bounds_of_sound (by decide)) (by linarith) (by linarith)

theorem one_within : Within (1 : Float) 1 1 :=
  ⟨_, hasValue_word (by decide : exponentOf .binary64 (1 : Float).toBits.toNat < 2047), by decide,
    by decide⟩

theorem cubic_within {rest : Float} (small : Within rest (-1) 1) :
    Within ((exponentialCubic * rest + exponentialSquare) * (rest * rest) + (exponentialLine * rest + 1)) (1 / 2) 2 := by
  have cubic : Within exponentialCubic 0 (1 / 64) := within_ofBits64 (by decide) (by decide) (by decide)
  have square : Within exponentialSquare 0 (1 / 64) := within_ofBits64 (by decide) (by decide) (by decide)
  have line : Within exponentialLine 0 (1 / 32) := within_ofBits64 (by decide) (by decide) (by decide)
  have first : Within (exponentialCubic * rest) (-1 / 64) (1 / 64) := cubic.mul small (by decide)
  have upper : Within (exponentialCubic * rest + exponentialSquare) (-1 / 16) (1 / 16) := first.add square (by decide)
  have squared : Within (rest * rest) (-1) 1 := small.mul small (by decide)
  have high : Within ((exponentialCubic * rest + exponentialSquare) * (rest * rest)) (-1 / 16) (1 / 16) :=
    upper.mul squared (by decide)
  have second : Within (exponentialLine * rest) (-1 / 32) (1 / 32) := line.mul small (by decide)
  have lower : Within (exponentialLine * rest + 1) (3 / 4) (5 / 4) := second.add one_within (by decide)
  exact high.add lower (by decide)

/-- A factor about one moves a power of two by one place at most, up or down. -/
theorem mul_power_within {x y : Float} {q : ℤ} (about : Within x (1 / 2) 2) (power : Within y (2 ^ q) (2 ^ (q + 1)))
    (least : -1000 ≤ q) (most : q ≤ 1000) : Within (x * y) (2 ^ (q - 1)) (2 ^ (q + 2)) := by
  have down : (2 : ℚ) ^ (q - 1) = 1 / 2 * 2 ^ q := by
    rw [zpow_sub_one₀ two_ne_zero]
    ring
  have up : (2 : ℚ) ^ (q + 2) = 2 * 2 ^ (q + 1) := by
    rw [mul_comm, ← zpow_add_one₀ two_ne_zero, add_assoc]
    rfl
  have range : Bounds .binary64 (2 ^ (q - 1)) (2 ^ (q + 2)) := by
    refine bounds_two_pow ?_ ?_ ?_
    · change (-1074 : ℤ) ≤ _
      omega
    · change (-1074 : ℤ) ≤ _
      omega
    · change _ ≤ (1023 : ℤ)
      omega
  obtain ⟨v, factor, half, two⟩ := about
  obtain ⟨w, scale, root, next⟩ := power
  have unit : (0 : ℚ) < 2 ^ q := by positivity
  refine factor.mul scale range ?_ ?_
  · rw [down]
    exact mul_le_mul half root unit.le (by linarith)
  · rw [up]
    exact mul_le_mul two next (unit.le.trans root) (by norm_num)

/-- The exponential lies about a power of two, the exponent of which follows the argument. -/
theorem exponentialWithin_within {x : Float} {v : ℚ} (has : HasValue x v) (least : -104 ≤ v) (most : v ≤ 66) :
    ∃ q : ℤ, Within (exponentialWithin x) (2 ^ (q - 1)) (2 ^ (q + 2)) ∧ -160 ≤ q ∧ q ≤ 97 ∧ (v ≤ 0 → q ≤ 0) ∧
      ∀ n : ℤ, -104 ≤ n → n ≤ 0 → n ≤ v → 2 * n ≤ q := by
  obtain ⟨c, unit, above, below⟩ : Within stepsPerUnit 46 47 := within_ofBits64 (by decide) (by decide) (by decide)
  have range : Bounds .binary64 (-4888) 3102 := bounds_of_sound (by decide)
  obtain ⟨s, steps, nearest⟩ := unit.mul_near has range (by nlinarith) (by nlinarith)
  have lower : -4888 ≤ s := nearest.ge range.low_exact (by nlinarith)
  have upper : s ≤ 3102 := nearest.le range.high_exact (by nlinarith)
  obtain ⟨k, shifted, floor, ceil⟩ := whole_steps steps (by linarith) (by linarith)
  have few : -4888 ≤ k := (Int.le_floor.mpr (by exact_mod_cast lower)).trans floor
  have many : k ≤ 3102 := ceil.trans (Int.ceil_le.mpr (by exact_mod_cast upper))
  have bits := toNat_shifted shifted (by omega) (by omega)
  have cubic := cubic_within (rest_within steps shifted floor ceil (by omega) (by omega))
  have scale := scale_within bits (by omega) (by omega)
  refine ⟨k / 32, mul_power_within cubic scale (by omega) (by omega), by omega, by omega, fun negative => ?_,
    fun n first last under => ?_⟩
  · have below : s ≤ 0 := nearest.le (exact_zero _) (by nlinarith)
    have : ⌈s⌉ ≤ 0 := Int.ceil_le.mpr (by exact_mod_cast below)
    omega
  · have exact : Exact .binary64 ((64 * n : ℤ) : ℚ) :=
      exact_intCast (abs_le.mpr ⟨by norm_num [Format.mantissaBits]; omega, by norm_num [Format.mantissaBits]; omega⟩)
    have last : (n : ℚ) ≤ 0 := by exact_mod_cast last
    have above : ((64 * n : ℤ) : ℚ) ≤ s := by
      refine nearest.ge exact ?_
      push_cast
      rcases le_total 0 v with positive | negative <;> nlinarith
    have : 64 * n ≤ ⌊s⌋ := Int.le_floor.mpr above
    omega

theorem hasValue_zero : HasValue (0 : Float32) 0 := by
  have value : valueOf .binary32 0 = 0 := by decide
  exact value ▸ hasValue_word (x := (0 : Float32)) (by decide)

/-- The exponential of a number that is not large is finite and not negative. It is at most four below zero, and above
zero down to a bound that the argument gives. -/
theorem exp_value {x : Float32} {v : ℚ} (has : HasValue x v) (most : v ≤ 66) :
    ∃ e, HasValue (exp x) e ∧ 0 ≤ e ∧ (v ≤ 0 → e ≤ 4) ∧
      ∀ n : ℤ, -70 ≤ n → n ≤ 0 → n ≤ v → (2 : ℚ) ^ (2 * n - 1) ≤ e := by
  obtain ⟨ceiling, largest, high, -⟩ : Within (Float32.ofBits 0x42b17217) 88 89 :=
    within_ofBits (by decide) (by decide) (by decide)
  obtain ⟨floor, least, low, under⟩ : Within (Float32.ofBits 0xc2cff1b4) (-104) (-103) :=
    within_ofBits (by decide) (by decide) (by decide)
  unfold exp
  dsimp only
  rw [isNaN_eq_false has, if_neg Bool.false_ne_true, if_neg (by rw [lt_iff_lt largest has]; linarith)]
  split
  next vanishes =>
    rw [lt_iff_lt has least] at vanishes
    refine ⟨0, hasValue_zero, le_rfl, fun _ => by norm_num, fun n first _ below => ?_⟩
    have : (-70 : ℚ) ≤ n := by exact_mod_cast first
    linarith
  next kept =>
    rw [lt_iff_lt has least] at kept
    obtain ⟨q, ⟨y, exact, above, below⟩, first, last, negative, floor⟩ :=
      exponentialWithin_within (hasValue_widen has) (by linarith) most
    have positive : (0 : ℚ) < 2 ^ (q - 1) := by positivity
    have bounded : (2 : ℚ) ^ (q + 2) ≤ 2 ^ (99 : ℤ) := zpow_le_zpow_right₀ one_le_two (by omega)
    have range : Bounds .binary32 0 (2 ^ (99 : ℤ)) := by
      refine ⟨exact_zero _, exact_two_pow (by decide), ?_, ?_⟩ <;> norm_num [limit, Format.exponentBias]
    obtain ⟨e, computed, nearest⟩ := narrow_near exact range (by linarith) (by linarith)
    refine ⟨e, computed, nearest.ge (exact_zero _) (by linarith), fun down => ?_, fun n lowest top under => ?_⟩
    · refine nearest.le (exact_of_plain (by decide)) (below.trans ?_)
      have : (2 : ℚ) ^ (q + 2) ≤ 2 ^ (2 : ℤ) := by
        have := negative down
        exact zpow_le_zpow_right₀ one_le_two (by omega)
      norm_num at this ⊢
      exact this
    · have lift := floor n (by omega) top under
      refine nearest.ge (exact_two_pow ?_) ((zpow_le_zpow_right₀ one_le_two (by omega)).trans above)
      change (-149 : ℤ) ≤ _
      omega

end SlotServe.Binary32
