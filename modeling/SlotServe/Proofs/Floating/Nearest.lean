import SlotServe.Proofs.Floating.Fields

/-! Rounding to a format. A number that is cut off carries two more bits that say whether the rest is zero, below one
half, one half or above. Shifting keeps that account exact, so that the rounded number is the nearest one of the
format; from that follow all bounds that are bounds of the format themselves. -/
namespace SlotServe.Floating

open Float.Model (Format UnpackedFloat totalExponent)
open Float.Model.UnpackedFloat

def Tells (accuracy : Accuracy) (rest : ℚ) : Prop :=
  match accuracy with
  | .exact => rest = 0
  | .inexact .lt => 0 < rest ∧ rest < 1 / 2
  | .inexact .eq => rest = 1 / 2
  | .inexact .gt => 1 / 2 < rest ∧ rest < 1

theorem Tells.range {accuracy : Accuracy} {rest : ℚ} (tells : Tells accuracy rest) : 0 ≤ rest ∧ rest < 1 := by
  unfold Tells at tells
  split at tells <;> constructor <;> linarith

def StandsFor (mantissa : ExtendedMantissa) (x : ℚ) : Prop := Tells mantissa.accuracy (x - mantissa.mantissa)

namespace StandsFor

variable {em : ExtendedMantissa} {x : ℚ}

theorem ofMantissaAndAccuracy {mantissa : ℕ} {accuracy : Accuracy} {rest : ℚ} (tells : Tells accuracy rest) :
    StandsFor (.ofMantissaAndAccuracy mantissa accuracy) (mantissa + rest) := by
  unfold StandsFor ExtendedMantissa.ofMantissaAndAccuracy
  rcases accuracy with _ | _ | _ | _ <;> simpa [ExtendedMantissa.accuracy] using tells

theorem shiftRightOne (stands : StandsFor em x) : StandsFor em.shiftRightOne (x / 2) := by
  obtain ⟨mantissa, roundBit, stickyBit⟩ := em
  have halves : (2 : ℚ) * (mantissa / 2 : ℕ) + (mantissa % 2 : ℕ) = mantissa := by
    exact_mod_cast Nat.div_add_mod mantissa 2
  -- The last bit of the mantissa becomes the round bit, and what was cut off before becomes sticky.
  rcases Nat.mod_two_eq_zero_or_one mantissa with last | last <;> rw [last] at halves <;>
    cases roundBit <;> cases stickyBit <;>
    simp only [StandsFor, Tells, ExtendedMantissa.accuracy, ExtendedMantissa.shiftRightOne, last, bne_self_eq_false,
      Nat.reduceBneDiff, Bool.or_self, Bool.or_true, Bool.or_false] at stands ⊢ <;>
    push_cast at halves <;> first | linarith | constructor <;> linarith

theorem shiftRight (stands : StandsFor em x) (count : ℕ) : StandsFor (em >>> count) (x / 2 ^ count) := by
  change StandsFor (count.repeat ExtendedMantissa.shiftRightOne em) _
  induction count with
  | zero => simpa [Nat.repeat] using stands
  | succ count ih =>
    rw [pow_succ, ← div_div]
    exact ih.shiftRightOne

theorem range (stands : StandsFor em x) : em.mantissa ≤ x ∧ x < em.mantissa + 1 := by
  have := Tells.range stands
  constructor <;> linarith

/-- Rounding moves a number by one half at most, to a neighbouring whole number. -/
theorem rounded (stands : StandsFor em x) : |(em.roundedMantissa : ℚ) - x| ≤ 1 / 2 ∧
    em.mantissa ≤ em.roundedMantissa ∧ em.roundedMantissa ≤ em.mantissa + 1 := by
  unfold StandsFor at stands
  unfold ExtendedMantissa.roundedMantissa
  generalize em.accuracy = accuracy at *
  have parity := Nat.mod_two_eq_zero_or_one em.mantissa
  rw [abs_le]
  rcases accuracy with _ | _ | _ | _ <;> simp only [Tells, Accuracy.roundToNearestEven] at stands ⊢
  · refine ⟨⟨?_, ?_⟩, ?_, ?_⟩ <;> first | omega | linarith
  · refine ⟨⟨?_, ?_⟩, ?_, ?_⟩ <;> first | omega | linarith
  · rcases parity with even | odd
    · rw [even]
      refine ⟨⟨?_, ?_⟩, ?_, ?_⟩ <;> first | omega | (push_cast; linarith)
    · rw [odd]
      refine ⟨⟨?_, ?_⟩, ?_, ?_⟩ <;> first | omega | (push_cast; linarith)
  · refine ⟨⟨?_, ?_⟩, ?_, ?_⟩ <;> first | omega | (push_cast; linarith)

end StandsFor

variable {format : Format}

def Canonical (format : Format) (mantissa : ℕ) (exponent : ℤ) : Prop :=
  format.targetExponent (totalExponent mantissa exponent) = exponent

section Canonical

variable {mantissa : ℕ} {exponent : ℤ}

theorem two_pow_mantissaBits (format : Format) :
    2 ^ format.mantissaBits = 2 * 2 ^ format.mantissaBitsWithoutImplicit := by
  rw [Format.mantissaBits, pow_add, pow_one]

/-- A canonical mantissa has no more digits than the format, and no less above the lowest exponent. -/
theorem canonical_iff (some : 0 < mantissa) : Canonical format mantissa exponent ↔
    mantissa < 2 ^ format.mantissaBits ∧ format.minExponent ≤ exponent ∧
      (exponent = format.minExponent ∨ 2 ^ format.mantissaBitsWithoutImplicit ≤ mantissa) := by
  have digits : format.mantissaBits = 1 + format.mantissaBitsWithoutImplicit := rfl
  rw [← Nat.log2_lt some.ne', ← Nat.le_log2 some.ne', digits]
  unfold Canonical Format.targetExponent totalExponent
  rw [digits]
  push_cast
  omega

theorem Canonical.lt (canonical : Canonical format mantissa exponent) (some : 0 < mantissa) :
    mantissa < 2 ^ format.mantissaBits := ((canonical_iff some).mp canonical).1

theorem Canonical.least (canonical : Canonical format mantissa exponent) : format.minExponent ≤ exponent :=
  (le_max_right _ _).trans_eq canonical

end Canonical

section Rounded

variable {rounded : ℕ} {exponent : ℤ}

/-- A mantissa of no more digits than the format is left as it is. -/
theorem shift_kept (few : rounded < 2 ^ format.mantissaBits) (least : format.minExponent ≤ exponent) :
    shiftToTargetExponent format rounded exponent .exact = (.ofMantissaAndAccuracy rounded .exact, exponent) := by
  have digits : format.mantissaBits = 1 + format.mantissaBitsWithoutImplicit := rfl
  have shift : (format.targetExponent (totalExponent rounded exponent) - exponent).toNat = 0 := by
    have short : rounded.log2 < format.mantissaBits := by
      rcases Nat.eq_zero_or_pos rounded with rfl | some
      · rw [Nat.log2_zero]
        omega
      · exact (Nat.log2_lt some.ne').mpr few
    unfold Format.targetExponent totalExponent
    omega
  unfold shiftToTargetExponent shiftToExponent
  dsimp only
  rw [shift, Int.natCast_zero, add_zero]
  rfl

/-- A carry beyond the last digit is shifted out again. -/
theorem shift_carried (least : format.minExponent ≤ exponent) :
    shiftToTargetExponent format (2 ^ format.mantissaBits) exponent .exact =
      ((ExtendedMantissa.ofMantissaAndAccuracy (2 ^ format.mantissaBits) .exact).shiftRightOne, exponent + 1) := by
  have shift : (format.targetExponent (totalExponent (2 ^ format.mantissaBits) exponent) - exponent).toNat = 1 := by
    unfold Format.targetExponent totalExponent
    rw [Nat.log2_two_pow]
    omega
  unfold shiftToTargetExponent shiftToExponent
  dsimp only
  rw [shift]
  rfl

/-- A rounded mantissa is brought back to its digits without a loss: it has one too many at most, and then is a power
of two. -/
theorem shift_rounded (fits : rounded ≤ 2 ^ format.mantissaBits) (least : format.minExponent ≤ exponent)
    (full : exponent = format.minExponent ∨ 2 ^ format.mantissaBitsWithoutImplicit ≤ rounded) :
    ∃ em after, shiftToTargetExponent format rounded exponent .exact = (em, after) ∧
      (em.mantissa : ℚ) * 2 ^ after = rounded * 2 ^ exponent ∧
      (0 < em.mantissa → Canonical format em.mantissa after) := by
  rcases Nat.lt_or_eq_of_le fits with less | rfl
  · exact ⟨_, _, shift_kept less least, rfl, fun some => (canonical_iff some).mpr ⟨less, least, full⟩⟩
  · have double : 2 ^ format.mantissaBits = 2 * 2 ^ format.mantissaBitsWithoutImplicit := two_pow_mantissaBits format
    have half : 2 ^ format.mantissaBits / 2 = 2 ^ format.mantissaBitsWithoutImplicit := by
      rw [double, Nat.mul_div_cancel_left _ (Nat.succ_pos 1)]
    refine ⟨_, _, shift_carried least, ?_, fun _ => ?_⟩
    · change ((2 ^ format.mantissaBits / 2 : ℕ) : ℚ) * _ = _
      rw [half, double, zpow_add_one₀ two_ne_zero]
      push_cast
      ring
    · change Canonical format (2 ^ format.mantissaBits / 2) (exponent + 1)
      rw [half]
      refine (canonical_iff (Nat.two_pow_pos _)).mpr ⟨?_, by omega, .inr le_rfl⟩
      rw [double]
      have := Nat.two_pow_pos format.mantissaBitsWithoutImplicit
      omega

end Rounded

/-- The numbers that a format has, its exponents without end upwards. -/
def Exact (format : Format) (x : ℚ) : Prop :=
  ∃ digits exponent : ℤ, |digits| ≤ 2 ^ format.mantissaBits ∧ format.minExponent ≤ exponent ∧
    x = digits * 2 ^ exponent

structure Nearest (format : Format) (x near : ℚ) : Prop where
  exact : Exact format near
  closest : ∀ other, Exact format other → |near - x| ≤ |other - x|

inductive Holds (format : Format) : UnpackedFloat → ℚ → Prop
  | zero (sign : Sign) : Holds format (.zero sign) 0
  | finite {sign : Sign} {mantissa : ℕ} {exponent : ℤ} {some : 0 < mantissa}
      (canonical : Canonical format mantissa exponent) :
      Holds format (.finite sign mantissa exponent some) (signed sign (mantissa * 2 ^ exponent))

theorem Holds.signed_zero (sign other : Sign) : Holds format (.zero sign) (signed other 0) := by
  cases other
  · exact (neg_zero : -(0 : ℚ) = 0).symm ▸ .zero sign
  · exact .zero sign

/-- A whole number within one half is as near as any. -/
theorem abs_sub_le_of_half {units : ℤ} {x : ℚ} (near : |(units : ℚ) - x| ≤ 1 / 2) (count : ℤ) :
    |(units : ℚ) - x| ≤ |(count : ℚ) - x| := by
  by_cases same : count = units
  · rw [same]
  · have apart : (1 : ℚ) ≤ |(count : ℚ) - units| := by exact_mod_cast Int.one_le_abs (sub_ne_zero.mpr same)
    have := abs_sub_le (count : ℚ) x units
    rw [abs_sub_comm x] at this
    linarith

/-- In a larger unit, a number of a finer one has a digit less at least. -/
theorem mul_two_pow_le {digits : ℤ} {steps : ℤ} (few : |digits| ≤ 2 ^ format.mantissaBits) (fine : steps < 0) :
    (digits : ℚ) * 2 ^ steps ≤ 2 ^ format.mantissaBitsWithoutImplicit := by
  have few : (digits : ℚ) ≤ 2 ^ format.mantissaBits := by exact_mod_cast (le_abs_self digits).trans few
  calc (digits : ℚ) * 2 ^ steps ≤ 2 ^ format.mantissaBits * 2 ^ (-1 : ℤ) :=
        mul_le_mul few (zpow_le_zpow_right₀ one_le_two (by omega)) (by positivity) (by positivity)
    _ = 2 ^ format.mantissaBitsWithoutImplicit := by
        rw [Format.mantissaBits, pow_add, zpow_neg_one, pow_one]
        ring

/-- Whole numbers of units nearest to `x`, where the unit is that of the last digit of `x`. -/
theorem nearest_of_unit {units : ℤ} {exponent : ℤ} {x : ℚ} (fits : |units| ≤ 2 ^ format.mantissaBits)
    (least : format.minExponent ≤ exponent) (near : |(units : ℚ) - x| ≤ 1 / 2)
    (full : exponent = format.minExponent ∨ 2 ^ format.mantissaBitsWithoutImplicit ≤ x) :
    Nearest format (x * 2 ^ exponent) (units * 2 ^ exponent) := by
  refine ⟨⟨units, exponent, fits, least, rfl⟩, ?_⟩
  rintro _ ⟨digits, place, few, above, rfl⟩
  have whole := abs_sub_le_of_half near
  have scaled : |(units : ℚ) - x| ≤ |(digits : ℚ) * 2 ^ (place - exponent) - x| := by
    rcases le_or_gt exponent place with coarse | fine
    · -- A multiple of a larger unit is one of the unit.
      obtain ⟨steps, same⟩ := Int.le.dest coarse
      have count : (digits : ℚ) * 2 ^ (place - exponent) = (digits * 2 ^ steps : ℤ) := by
        rw [← same, add_sub_cancel_left, zpow_natCast]
        push_cast
        rfl
      rw [count]
      exact whole _
    · -- A finer number is no larger than the least one with all digits, which is a whole number of units.
      have below : (2 : ℚ) ^ format.mantissaBitsWithoutImplicit ≤ x := full.resolve_left (by omega)
      have small : (digits : ℚ) * 2 ^ (place - exponent) ≤ 2 ^ format.mantissaBitsWithoutImplicit :=
        mul_two_pow_le few (by omega)
      have exact := whole (2 ^ format.mantissaBitsWithoutImplicit)
      push_cast at exact
      refine exact.trans ?_
      rw [abs_of_nonpos (by linarith), abs_of_nonpos (by linarith)]
      linarith
  have split_off : (2 : ℚ) ^ place = 2 ^ (place - exponent) * 2 ^ exponent := by
    rw [← zpow_add₀ two_ne_zero, sub_add_cancel]
  rw [split_off, ← mul_assoc, ← sub_mul, ← sub_mul, abs_mul, abs_mul]
  exact mul_le_mul_of_nonneg_right scaled (abs_nonneg _)

section Cut

variable {mantissa shift : ℕ} {exponent target : ℤ} {rest : ℚ}

/-- Cut off at the exponent of the format, a number has no more digits than the format. -/
theorem cut_lt (same : target = format.targetExponent (totalExponent mantissa exponent))
    (shifted : exponent + shift = target) (most : rest < 1) :
    (mantissa + rest) / 2 ^ shift < 2 ^ format.mantissaBits := by
  have total : totalExponent mantissa exponent ≤ target + format.mantissaBits := by
    have := le_max_left (totalExponent mantissa exponent - format.mantissaBits) format.minExponent
    unfold Format.targetExponent at same
    omega
  have bound : mantissa + 1 ≤ 2 ^ (shift + format.mantissaBits) := by
    have own : mantissa < 2 ^ (mantissa.log2 + 1) := Nat.lt_log2_self
    refine own.trans_le (Nat.pow_le_pow_right (Nat.succ_pos 1) ?_)
    unfold totalExponent at total
    omega
  have bound : (mantissa : ℚ) + 1 ≤ 2 ^ (shift + format.mantissaBits) := by exact_mod_cast bound
  rw [div_lt_iff₀ (by positivity), mul_comm, ← pow_add]
  linarith

/-- Above the lowest exponent it has all of them. -/
theorem cut_full (same : target = format.targetExponent (totalExponent mantissa exponent))
    (shifted : exponent + shift = target) (least : 0 ≤ rest) :
    target = format.minExponent ∨ 2 ^ format.mantissaBitsWithoutImplicit ≤ ((mantissa + rest) / 2 ^ shift : ℚ) := by
  have digits : format.mantissaBits = 1 + format.mantissaBitsWithoutImplicit := rfl
  have implicit := format.hm
  refine or_iff_not_imp_left.mpr fun lowest => ?_
  have above : target = totalExponent mantissa exponent - format.mantissaBits := by
    unfold Format.targetExponent at same
    omega
  unfold totalExponent at above
  have nonzero : mantissa ≠ 0 := by
    rintro rfl
    rw [Nat.log2_zero] at above
    omega
  have bound : 2 ^ (format.mantissaBitsWithoutImplicit + shift) ≤ mantissa := (Nat.le_log2 nonzero).mp (by omega)
  have bound : (2 : ℚ) ^ (format.mantissaBitsWithoutImplicit + shift) ≤ mantissa := by exact_mod_cast bound
  rw [le_div_iff₀ (by positivity), ← pow_add]
  linarith

end Cut

namespace StandsFor

variable {em : ExtendedMantissa} {x : ℚ} {bits : ℕ}

theorem rounded_le (stands : StandsFor em x) (below : x < 2 ^ bits) : em.roundedMantissa ≤ 2 ^ bits := by
  have own : (em.mantissa : ℚ) < (2 ^ bits : ℕ) := by
    push_cast
    exact stands.range.1.trans_lt below
  have := Nat.cast_lt.mp own
  have := stands.rounded.2.2
  omega

theorem le_rounded (stands : StandsFor em x) (above : 2 ^ bits ≤ x) : 2 ^ bits ≤ em.roundedMantissa := by
  have own : 2 ^ bits < em.mantissa + 1 := by exact_mod_cast above.trans_lt stands.range.2
  have := stands.rounded.2.1
  omega

end StandsFor

theorem holds_mantissa {mantissa : ℕ} {exponent : ℤ} (canonical : 0 < mantissa → Canonical format mantissa exponent)
    (sign : Sign) :
    Holds format (if none : mantissa = 0 then .zero sign else .finite sign mantissa exponent (Nat.pos_of_ne_zero none))
      (signed sign (mantissa * 2 ^ exponent)) := by
  split
  next none =>
    rw [none, Nat.cast_zero, zero_mul]
    exact .signed_zero sign sign
  next some => exact .finite (canonical (Nat.pos_of_ne_zero some))

/-- Rounding gives the nearest number. The exponent must not be above that of the format already. -/
theorem holds_roundWithAccuracy {mantissa : ℕ} {exponent : ℤ} {accuracy : Accuracy} {rest : ℚ}
    (tells : Tells accuracy rest) (low : exponent ≤ format.targetExponent (totalExponent mantissa exponent))
    (sign : Sign) :
    ∃ near, Holds format (roundWithAccuracy format sign mantissa exponent accuracy) (signed sign near) ∧
      Nearest format ((mantissa + rest) * 2 ^ exponent) near := by
  obtain ⟨target, same⟩ : ∃ target, target = format.targetExponent (totalExponent mantissa exponent) := ⟨_, rfl⟩
  rw [← same] at low
  obtain ⟨shift, shifted⟩ := Int.le.dest low
  obtain ⟨em, cut⟩ : ∃ em, em = ExtendedMantissa.ofMantissaAndAccuracy mantissa accuracy >>> shift := ⟨_, rfl⟩
  have stands : StandsFor em ((mantissa + rest) / 2 ^ shift) := by
    rw [cut]
    exact (StandsFor.ofMantissaAndAccuracy tells).shiftRight shift
  have least : format.minExponent ≤ target := (le_max_right _ _).trans_eq same.symm
  have full := cut_full same shifted tells.range.1
  have fits := stands.rounded_le (cut_lt same shifted tells.range.2)
  -- The first shift leaves whole numbers of the last digit, and a second one at most brings the rounded number back.
  have first : shiftToTargetExponent format mantissa exponent accuracy = (em, target) := by
    have amount : (target - exponent).toNat = shift := by omega
    unfold shiftToTargetExponent shiftToExponent
    dsimp only
    rw [← same, amount, cut, shifted]
  obtain ⟨final, after, second, equal, canonical⟩ := shift_rounded fits least (full.imp_right stands.le_rounded)
  have value : (mantissa + rest) * 2 ^ exponent = (mantissa + rest) / 2 ^ shift * (2 : ℚ) ^ target := by
    rw [← shifted, zpow_add₀ two_ne_zero, zpow_natCast]
    field_simp
  refine ⟨final.mantissa * 2 ^ after, ?_, ?_⟩
  · unfold roundWithAccuracy
    rw [first]
    dsimp only
    rw [second]
    exact holds_mantissa canonical sign
  · rw [equal, value]
    change Nearest format _ ((em.roundedMantissa : ℤ) * 2 ^ target)
    refine nearest_of_unit ?_ least ?_ full
    · rw [Nat.abs_cast]
      exact_mod_cast fits
    · rw [Int.cast_natCast]
      exact stands.rounded.1

end SlotServe.Floating
