import SlotServe.Binary32.Basic
import SlotServe.Proofs.Floating.Nearest

/-! Arithmetic on the numbers of a format. Each operation gives the number of the format that is nearest to the exact
result. -/
namespace SlotServe.Floating

open Float.Model (Format UnpackedFloat totalExponent)
open Float.Model.UnpackedFloat

variable {format : Format}

section Exact

theorem Exact.neg {x : ℚ} (exact : Exact format x) : Exact format (-x) := by
  obtain ⟨digits, exponent, few, least, rfl⟩ := exact
  exact ⟨-digits, exponent, by rwa [abs_neg], least, by push_cast; ring⟩

theorem exact_signed {x : ℚ} {sign : Sign} (exact : Exact format x) : Exact format (signed sign x) := by
  cases sign
  · exact exact.neg
  · exact exact

theorem exact_zero (format : Format) : Exact format 0 :=
  ⟨0, format.minExponent, by simp, le_rfl, by simp⟩

theorem minExponent_nonpos (format : Format) : format.minExponent ≤ 0 := by
  have := minExponent_eq format
  have := format.hm
  omega

theorem exact_intCast {number : ℤ} (few : |number| ≤ 2 ^ format.mantissaBits) : Exact format number :=
  ⟨number, 0, few, minExponent_nonpos format, by simp⟩

theorem exact_two_pow {exponent : ℤ} (least : format.minExponent ≤ exponent) : Exact format (2 ^ exponent) :=
  ⟨1, exponent, by rw [abs_one]; exact one_le_pow₀ one_le_two, least, by simp⟩

/-- A number so large that it has no digits below a unit is a whole number of units. -/
theorem Exact.multiple {x : ℚ} (exact : Exact format x) (unit : ℤ)
    (large : 2 ^ (format.mantissaBitsWithoutImplicit + unit) < |x|) : ∃ number : ℤ, x = number * 2 ^ unit := by
  obtain ⟨digits, exponent, few, least, rfl⟩ := exact
  have above : unit ≤ exponent := by
    by_contra below
    have few : |(digits : ℚ)| ≤ 2 ^ format.mantissaBits := by exact_mod_cast few
    have half : (2 : ℚ) ^ exponent ≤ 2 ^ (unit - 1) := zpow_le_zpow_right₀ one_le_two (by omega)
    have small : |(digits : ℚ) * 2 ^ exponent| ≤ 2 ^ format.mantissaBits * 2 ^ (unit - 1) := by
      rw [abs_mul, abs_of_pos (by positivity : (0 : ℚ) < 2 ^ exponent)]
      exact mul_le_mul few half (by positivity) (by positivity)
    have power : (2 : ℚ) ^ format.mantissaBits * 2 ^ (unit - 1) = 2 ^ (format.mantissaBitsWithoutImplicit + unit) := by
      rw [← zpow_natCast, ← zpow_add₀ two_ne_zero, Format.mantissaBits]
      congr 1
      push_cast
      ring
    linarith
  obtain ⟨shift, rfl⟩ := Int.le.dest above
  refine ⟨digits * 2 ^ shift, ?_⟩
  rw [zpow_add₀ two_ne_zero, zpow_natCast]
  push_cast
  ring

theorem Holds.exact {x : UnpackedFloat} {v : ℚ} (holds : Holds format x v) : Exact format v := by
  cases holds with
  | zero => exact exact_zero format
  | @finite sign mantissa exponent some canonical =>
    refine exact_signed ⟨mantissa, exponent, ?_, canonical.least, by rw [Int.cast_natCast]⟩
    rw [Nat.abs_cast]
    exact_mod_cast (canonical.lt some).le

end Exact

namespace Nearest

variable {x near bound : ℚ}

/-- A number of the format bounds the rounded value if it bounds the exact one. -/
theorem le (nearest : Nearest format x near) (exact : Exact format bound) (below : x ≤ bound) : near ≤ bound := by
  by_contra above
  have closest := nearest.closest bound exact
  rw [abs_of_nonneg (by linarith : 0 ≤ bound - x)] at closest
  have := le_abs_self (near - x)
  linarith

theorem ge (nearest : Nearest format x near) (exact : Exact format bound) (above : bound ≤ x) : bound ≤ near := by
  by_contra below
  have closest := nearest.closest bound exact
  rw [abs_of_nonpos (by linarith : bound - x ≤ 0)] at closest
  have := neg_abs_le (near - x)
  linarith

theorem eq (nearest : Nearest format x near) (exact : Exact format x) : near = x :=
  le_antisymm (nearest.le exact le_rfl) (nearest.ge exact le_rfl)

theorem self (exact : Exact format x) : Nearest format x x := by
  refine ⟨exact, fun other _ => ?_⟩
  rw [sub_self, abs_zero]
  exact abs_nonneg _

theorem neg (nearest : Nearest format x near) : Nearest format (-x) (-near) := by
  refine ⟨nearest.exact.neg, fun other exact => ?_⟩
  have closest := nearest.closest (-other) exact.neg
  rwa [← abs_neg, ← abs_neg (-other - x), neg_sub', neg_sub', neg_neg] at closest

theorem signed {sign : Sign} (nearest : Nearest format x near) :
    Nearest format (signed sign x) (signed sign near) := by
  cases sign
  · exact nearest.neg
  · exact nearest

/-- Past the power of two from which on a unit is the last digit, less than half of the unit is lost. -/
theorem stalls (nearest : Nearest format x near) (unit : ℤ)
    (least : format.minExponent ≤ format.mantissaBitsWithoutImplicit + unit)
    (below : x < 2 ^ (format.mantissaBitsWithoutImplicit + unit) + 2 ^ unit / 2) :
    near ≤ 2 ^ (format.mantissaBitsWithoutImplicit + unit) := by
  by_contra beyond
  rw [not_le] at beyond
  obtain ⟨units, rfl⟩ := nearest.exact.multiple unit (beyond.trans_le (le_abs_self near))
  have step : (0 : ℚ) < 2 ^ unit := by positivity
  -- The next number of the format is a whole unit further on.
  have apart : (2 : ℚ) ^ (format.mantissaBitsWithoutImplicit + unit) + 2 ^ unit ≤ units * 2 ^ unit := by
    rw [zpow_add₀ two_ne_zero, zpow_natCast] at beyond ⊢
    have more : (2 : ℚ) ^ format.mantissaBitsWithoutImplicit < units := lt_of_mul_lt_mul_right beyond step.le
    have more : 2 ^ format.mantissaBitsWithoutImplicit + 1 ≤ units := by exact_mod_cast more
    have more : (2 : ℚ) ^ format.mantissaBitsWithoutImplicit + 1 ≤ units := by exact_mod_cast more
    calc (2 : ℚ) ^ format.mantissaBitsWithoutImplicit * 2 ^ unit + 2 ^ unit
        = (2 ^ format.mantissaBitsWithoutImplicit + 1) * 2 ^ unit := by ring
      _ ≤ units * 2 ^ unit := mul_le_mul_of_nonneg_right more step.le
  have closest := (le_abs_self _).trans (nearest.closest _ (exact_two_pow least))
  rcases le_abs'.mp closest with above | short <;> linarith

end Nearest

theorem log2_mul_two_pow {count : ℕ} (some : 0 < count) (shift : ℕ) :
    (count * 2 ^ shift).log2 = count.log2 + shift := by
  induction shift with
  | zero => simp
  | succ shift ih =>
    rw [pow_succ, ← mul_assoc, mul_comm, Nat.log2_two_mul (Nat.mul_pos some (Nat.two_pow_pos shift)).ne', ih]
    rfl

theorem decreaseExponent_eq (mantissa : ℕ) {exponent target : ℤ} (above : target ≤ exponent) :
    ∃ lowered, decreaseExponent mantissa exponent target = (lowered, target) ∧
      (lowered : ℚ) * 2 ^ target = mantissa * 2 ^ exponent ∧
      (0 < mantissa → 0 < lowered ∧ totalExponent lowered target = totalExponent mantissa exponent) := by
  obtain ⟨shift, rfl⟩ := Int.le.dest above
  refine ⟨mantissa * 2 ^ shift, ?_, ?_, fun some => ⟨Nat.mul_pos some (Nat.two_pow_pos _), ?_⟩⟩
  · unfold decreaseExponent
    simp [Nat.shiftLeft_eq]
  · rw [zpow_add₀ two_ne_zero, zpow_natCast]
    push_cast
    ring
  · unfold totalExponent
    rw [log2_mul_two_pow some]
    push_cast
    ring

theorem holds_round (format : Format) {mantissa : ℕ} (some : 0 < mantissa) (exponent : ℤ) (sign : Sign) :
    ∃ near, Holds format (UnpackedFloat.round format sign mantissa exponent) (signed sign near) ∧
      Nearest format (mantissa * 2 ^ exponent) near := by
  have tells : Tells .exact 0 := rfl
  unfold UnpackedFloat.round
  dsimp only
  rcases le_total exponent (format.targetExponent (totalExponent mantissa exponent)) with low | high
  · have kept : decreaseExponent mantissa exponent (format.targetExponent (totalExponent mantissa exponent)) =
        (mantissa, exponent) := by
      unfold decreaseExponent
      rw [Int.toNat_of_nonpos (by omega)]
      simp
    rw [kept]
    have rounded := holds_roundWithAccuracy tells low sign
    rwa [add_zero] at rounded
  · obtain ⟨lowered, down, value, rest⟩ := decreaseExponent_eq mantissa high
    obtain ⟨-, total⟩ := rest some
    rw [down, ← value]
    have rounded := holds_roundWithAccuracy tells (by rw [total]) sign
    rwa [add_zero] at rounded

theorem holds_normalize (format : Format) (mantissa exponent : ℤ) (zero : Sign) :
    ∃ near, Holds format (UnpackedFloat.normalize format mantissa exponent zero) near ∧
      Nearest format (mantissa * 2 ^ exponent) near := by
  unfold UnpackedFloat.normalize
  rcases lt_trichotomy mantissa 0 with negative | rfl | positive
  · rw [compare_lt_iff_lt.mpr negative]
    obtain ⟨size, rfl⟩ : ∃ size : ℕ, mantissa = -size := ⟨mantissa.natAbs, by omega⟩
    obtain ⟨near, holds, nearest⟩ := holds_round format (by omega : 0 < size) exponent .negative
    rw [neg_neg, Int.toNat_natCast, Int.cast_neg, Int.cast_natCast, neg_mul]
    exact ⟨_, holds, nearest.neg⟩
  · rw [compare_eq_iff_eq.mpr rfl, Int.cast_zero, zero_mul]
    exact ⟨0, .zero zero, .self (exact_zero format)⟩
  · rw [compare_gt_iff_gt.mpr positive]
    obtain ⟨size, rfl⟩ := Int.eq_ofNat_of_zero_le positive.le
    obtain ⟨near, holds, nearest⟩ := holds_round format (by omega : 0 < size) exponent .positive
    rw [Int.toNat_natCast, Int.cast_natCast]
    exact ⟨_, holds, nearest⟩

section Operations

variable {x y : UnpackedFloat} {v w : ℚ}

/-- Two signed numbers brought to one exponent. -/
theorem signed_decrease {sign : Sign} {mantissa lowered : ℕ} {exponent target : ℤ}
    (value : (lowered : ℚ) * 2 ^ target = mantissa * 2 ^ exponent) :
    ((sign.apply lowered : ℤ) : ℚ) * 2 ^ target = signed sign ((mantissa : ℚ) * 2 ^ exponent) := by
  cases sign
  · change ((-(lowered : ℤ) : ℤ) : ℚ) * 2 ^ target = -_
    rw [← value]
    push_cast
    ring
  · change ((lowered : ℤ) : ℚ) * 2 ^ target = _
    rw [Int.cast_natCast]
    exact value

theorem Holds.add (left : Holds format x v) (right : Holds format y w) :
    ∃ near, Holds format (UnpackedFloat.add format x y) near ∧ Nearest format (v + w) near := by
  have exact := left.exact
  have exact' := right.exact
  cases left with
  | zero sign =>
    cases right with
    | zero other =>
      refine ⟨0, ?_, by rw [add_zero]; exact .self (exact_zero format)⟩
      unfold UnpackedFloat.add
      dsimp only
      split
      · exact .zero _
      · exact .zero _
    | @finite other mantissa exponent some canonical =>
      rw [zero_add]
      exact ⟨_, .finite canonical, .self exact'⟩
  | @finite sign mantissa exponent some canonical =>
    cases right with
    | zero other =>
      rw [add_zero]
      exact ⟨_, .finite canonical, .self exact⟩
    | @finite other mantissa' exponent' some' canonical' =>
      obtain ⟨lowered, down, value, -⟩ := decreaseExponent_eq mantissa (min_le_left exponent exponent')
      obtain ⟨lowered', down', value', -⟩ :=
        decreaseExponent_eq mantissa' (min_le_right exponent exponent')
      obtain ⟨near, holds, nearest⟩ := holds_normalize format
        (sign.apply lowered + other.apply lowered') (min exponent exponent') .positive
      refine ⟨near, ?_, ?_⟩
      · unfold UnpackedFloat.add
        dsimp only
        rw [down, down']
        exact holds
      · rw [← signed_decrease value, ← signed_decrease value', ← add_mul]
        exact_mod_cast nearest

theorem Holds.sub (left : Holds format x v) (right : Holds format y w) :
    ∃ near, Holds format (UnpackedFloat.sub format x y) near ∧ Nearest format (v - w) near := by
  have exact := left.exact
  have exact' := right.exact
  cases left with
  | zero sign =>
    cases right with
    | zero other =>
      refine ⟨0, ?_, by rw [sub_zero]; exact .self (exact_zero format)⟩
      unfold UnpackedFloat.sub
      dsimp only
      split
      · exact .zero _
      · exact .zero _
    | @finite other mantissa exponent some canonical =>
      rw [zero_sub]
      refine ⟨_, ?_, .self exact'.neg⟩
      cases other
      · rw [signed, neg_neg]
        exact (Holds.finite canonical : Holds format (.finite .positive mantissa exponent some) _)
      · exact (Holds.finite canonical : Holds format (.finite .negative mantissa exponent some) _)
  | @finite sign mantissa exponent some canonical =>
    cases right with
    | zero other =>
      rw [sub_zero]
      exact ⟨_, .finite canonical, .self exact⟩
    | @finite other mantissa' exponent' some' canonical' =>
      obtain ⟨lowered, down, value, -⟩ := decreaseExponent_eq mantissa (min_le_left exponent exponent')
      obtain ⟨lowered', down', value', -⟩ :=
        decreaseExponent_eq mantissa' (min_le_right exponent exponent')
      obtain ⟨near, holds, nearest⟩ := holds_normalize format
        (sign.apply lowered - other.apply lowered') (min exponent exponent') .positive
      refine ⟨near, ?_, ?_⟩
      · unfold UnpackedFloat.sub
        dsimp only
        rw [down, down']
        exact holds
      · rw [← signed_decrease value, ← signed_decrease value', ← sub_mul]
        exact_mod_cast nearest

/-- A product of canonical numbers is not above the exponent that the format gives it. -/
theorem product_low {mantissa mantissa' : ℕ} {exponent exponent' : ℤ} (some : 0 < mantissa) (some' : 0 < mantissa')
    (canonical : Canonical format mantissa exponent) (canonical' : Canonical format mantissa' exponent') :
    exponent + exponent' ≤ format.targetExponent (totalExponent (mantissa * mantissa') (exponent + exponent')) := by
  have digits : format.mantissaBits = 1 + format.mantissaBitsWithoutImplicit := rfl
  have nonpos := minExponent_nonpos format
  unfold Format.targetExponent totalExponent
  by_cases long : 2 ^ format.mantissaBitsWithoutImplicit ≤ mantissa * mantissa'
  · have := (Nat.le_log2 (Nat.mul_pos some some').ne').mpr long
    omega
  · -- Both are at the lowest exponent, which is not positive.
    obtain ⟨-, least, lowest⟩ := (canonical_iff some).mp canonical
    obtain ⟨-, least', lowest'⟩ := (canonical_iff some').mp canonical'
    have short : ¬ 2 ^ format.mantissaBitsWithoutImplicit ≤ mantissa := fun full =>
      long (full.trans (Nat.le_mul_of_pos_right _ some'))
    have short' : ¬ 2 ^ format.mantissaBitsWithoutImplicit ≤ mantissa' := fun full =>
      long (full.trans (Nat.le_mul_of_pos_left _ some))
    have := lowest.resolve_right short
    have := lowest'.resolve_right short'
    omega

theorem signed_mul (sign other : Sign) (left right : ℚ) :
    signed sign left * signed other right = signed (sign * other) (left * right) := by
  cases sign <;> cases other
  · exact neg_mul_neg left right
  · exact neg_mul left right
  · exact mul_neg left right
  · rfl

theorem Holds.mul (left : Holds format x v) (right : Holds format y w) :
    ∃ near, Holds format (UnpackedFloat.mul format x y) near ∧ Nearest format (v * w) near := by
  cases left with
  | zero sign =>
    rw [zero_mul]
    refine ⟨0, ?_, .self (exact_zero format)⟩
    cases right <;> exact .zero _
  | @finite sign mantissa exponent some canonical =>
    cases right with
    | zero other =>
      rw [mul_zero]
      exact ⟨0, .zero _, .self (exact_zero format)⟩
    | @finite other mantissa' exponent' some' canonical' =>
      have tells : Tells .exact 0 := rfl
      obtain ⟨near, holds, nearest⟩ := holds_roundWithAccuracy tells
        (product_low some some' canonical canonical') (sign * other)
      refine ⟨_, holds, ?_⟩
      have value : (mantissa : ℚ) * 2 ^ exponent * (mantissa' * 2 ^ exponent') =
          ((mantissa * mantissa' : ℕ) + 0) * 2 ^ (exponent + exponent') := by
        rw [zpow_add₀ two_ne_zero]
        push_cast
        ring
      rw [signed_mul, value]
      exact nearest.signed

theorem signed_div (sign other : Sign) (left right : ℚ) :
    signed sign left / signed other right = signed (sign / other) (left / right) := by
  cases sign <;> cases other
  · exact neg_div_neg_eq left right
  · exact neg_div right left
  · exact div_neg left
  · rfl

theorem tells_accuracyOfFraction {rest divisor : ℕ} (less : rest < divisor) :
    Tells (accuracyOfFraction rest divisor) (rest / divisor) := by
  have positive : (0 : ℚ) < divisor := Nat.cast_pos.mpr (Nat.zero_lt_of_lt less)
  unfold accuracyOfFraction
  split
  next none =>
    rw [none]
    simp [Tells]
  next some =>
    have some : (0 : ℚ) < rest := Nat.cast_pos.mpr (Nat.pos_of_ne_zero some)
    rcases lt_trichotomy (2 * rest) divisor with below | half | above
    · rw [compare_lt_iff_lt.mpr below]
      have below : (2 : ℚ) * rest < divisor := by exact_mod_cast below
      exact ⟨by positivity, by rw [div_lt_div_iff₀ positive two_pos]; linarith⟩
    · rw [compare_eq_iff_eq.mpr half]
      have half : (2 : ℚ) * rest = divisor := by exact_mod_cast half
      change (rest : ℚ) / divisor = 1 / 2
      rw [div_eq_div_iff positive.ne' two_ne_zero]
      linarith
    · rw [compare_gt_iff_gt.mpr above]
      have above : (divisor : ℚ) < 2 * rest := by exact_mod_cast above
      have less : (rest : ℚ) < divisor := by exact_mod_cast less
      exact ⟨by rw [div_lt_div_iff₀ two_pos positive]; linarith, by rwa [div_lt_one positive]⟩

theorem quotient_add_rest (count : ℕ) {divisor : ℕ} (some : 0 < divisor) :
    ((count / divisor : ℕ) : ℚ) + (count % divisor : ℕ) / divisor = count / divisor := by
  have positive : (0 : ℚ) < divisor := Nat.cast_pos.mpr some
  have whole : (divisor : ℚ) * (count / divisor : ℕ) + (count % divisor : ℕ) = count := by
    exact_mod_cast Nat.div_add_mod count divisor
  field_simp
  linarith

/-- A quotient has about as many digits as its exponent was lowered by, and is not above the exponent that the format
gives it. -/
theorem quotient_low {mantissa divisor : ℕ} (some : 0 < mantissa) (some' : 0 < divisor) {shift : ℕ} {total target : ℤ}
    (same : total = mantissa.log2 + shift - divisor.log2 + target) (low : target ≤ format.targetExponent total) :
    target ≤ format.targetExponent (totalExponent (mantissa * 2 ^ shift / divisor) target) := by
  refine low.trans (max_le_max (sub_le_sub_right ?_ _) le_rfl)
  have digits : mantissa.log2 + shift ≤ (mantissa * 2 ^ shift / divisor).log2 + 1 + divisor.log2 := by
    rw [← log2_mul_two_pow some]
    have above : mantissa * 2 ^ shift < (mantissa * 2 ^ shift / divisor + 1) * divisor := by
      rw [Nat.succ_mul]
      exact Nat.lt_div_mul_add some'
    have wide : mantissa * 2 ^ shift < 2 ^ ((mantissa * 2 ^ shift / divisor).log2 + 1 + (divisor.log2 + 1)) := by
      refine above.trans_le ?_
      rw [pow_add]
      exact Nat.mul_le_mul Nat.lt_log2_self Nat.lt_log2_self.le
    have := (Nat.log2_lt (Nat.mul_pos some (Nat.two_pow_pos _)).ne').mpr wide
    omega
  unfold totalExponent
  omega

theorem Holds.div (left : Holds format x v) (right : Holds format y w) (some : w ≠ 0) :
    ∃ near, Holds format (UnpackedFloat.div format x y) near ∧ Nearest format (v / w) near := by
  cases right with
  | zero other => exact absurd rfl some
  | @finite other divisor exponent' some' canonical' =>
    cases left with
    | zero sign =>
      rw [zero_div]
      exact ⟨0, .zero _, .self (exact_zero format)⟩
    | @finite sign mantissa exponent some canonical =>
      obtain ⟨total, total_eq⟩ : ∃ total, total = totalExponent mantissa exponent - totalExponent divisor exponent' :=
        ⟨_, rfl⟩
      obtain ⟨target, target_eq⟩ : ∃ target, target = min (exponent - exponent') (format.targetExponent total) :=
        ⟨_, rfl⟩
      obtain ⟨shift, shifted⟩ := Int.le.dest (target_eq.trans_le (min_le_left _ _))
      have low : target ≤ format.targetExponent total := target_eq.trans_le (min_le_right _ _)
      have same : total = mantissa.log2 + shift - divisor.log2 + target := by
        rw [total_eq]
        unfold totalExponent
        omega
      have positive' : (0 : ℚ) < divisor := Nat.cast_pos.mpr some'
      have parts := quotient_add_rest (mantissa * 2 ^ shift) some'
      push_cast at parts
      obtain ⟨near, holds, nearest⟩ := holds_roundWithAccuracy
        (tells_accuracyOfFraction (Nat.mod_lt (mantissa * 2 ^ shift) some'))
        (quotient_low some some' same low) (sign / other)
      refine ⟨signed (sign / other) near, ?_, ?_⟩
      · unfold UnpackedFloat.div divCore
        dsimp only
        rw [← total_eq, ← target_eq, Nat.shiftLeft_eq, ← shifted, add_sub_cancel_left, Int.toNat_natCast]
        exact holds
      · have value : (mantissa : ℚ) * 2 ^ exponent / (divisor * 2 ^ exponent') =
            mantissa * 2 ^ shift / divisor * 2 ^ target := by
          have powers : (2 : ℚ) ^ exponent = 2 ^ shift * 2 ^ target * 2 ^ exponent' := by
            rw [← zpow_natCast, ← zpow_add₀ two_ne_zero, ← zpow_add₀ two_ne_zero]
            congr 1
            omega
          rw [powers]
          field_simp
        rw [signed_div, value, ← parts]
        exact nearest.signed

theorem Holds.rounded (format : Format) {other : Format} (holds : Holds other x v) :
    ∃ near, Holds format (Binary32.rounded format x) near ∧ Nearest format v near := by
  cases holds with
  | zero sign => exact ⟨0, .zero sign, .self (exact_zero format)⟩
  | @finite sign mantissa exponent some canonical =>
    obtain ⟨near, holds, nearest⟩ := holds_round format some exponent sign
    exact ⟨_, holds, nearest.signed⟩

end Operations

end SlotServe.Floating
