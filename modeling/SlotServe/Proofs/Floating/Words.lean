import SlotServe.Proofs.Floating.Arithmetic

/-! Words and the values that they stand for. A value within the range of a format survives being packed into a word,
the fields of a word tell its value, and words compare as their values do. -/
namespace SlotServe.Floating

open Float.Model (Format UnpackedFloat totalExponent)
open Float.Model.UnpackedFloat

variable {format : Format}

theorem unpack_packComponents (sign : Sign) (exponent : BitVec format.exponentBits)
    (mantissa : BitVec format.mantissaBitsWithoutImplicit) :
    unpack format (packComponents format sign exponent mantissa) =
      ofFields format sign exponent.toNat mantissa.toNat := by
  rw [unpack_components, unpackExponent_packComponents, unpackMantissa_packComponents, unpackSign_packComponents]
  cases sign <;> rfl

theorem two_pow_exponentBits (format : Format) : 2 ^ format.exponentBits = 2 * (format.exponentBias + 1) := by
  have some := format.he
  have positive : 1 ≤ 2 ^ (format.exponentBits - 1) := Nat.one_le_two_pow
  unfold Format.exponentBias
  rw [Nat.sub_add_cancel positive, ← pow_succ', Nat.sub_add_cancel some]

def limit (format : Format) : ℚ := 2 ^ (format.exponentBias + 1)

/-- A finite number of the format has an exponent field short of that of infinity. -/
theorem Canonical.field_lt {mantissa : ℕ} {exponent : ℤ} (canonical : Canonical format mantissa exponent)
    (wide : 1 < format.exponentBits) (some : 0 < mantissa) (below : (mantissa : ℚ) * 2 ^ exponent < limit format) :
    exponent + format.exponentBias + format.mantissaBitsWithoutImplicit + 1 < 2 ^ format.exponentBits := by
  obtain ⟨-, -, full⟩ := (canonical_iff some).mp canonical
  have least := minExponent_eq format
  have range := two_pow_exponentBits format
  have large : 2 ^ 2 ≤ 2 ^ format.exponentBits := Nat.pow_le_pow_right (Nat.succ_pos 1) wide
  have range : (2 : ℤ) ^ format.exponentBits = 2 * (format.exponentBias + 1) := by exact_mod_cast range
  have large : (4 : ℤ) ≤ 2 ^ format.exponentBits := by exact_mod_cast large
  rcases full with lowest | full
  · omega
  · have full : (2 : ℚ) ^ format.mantissaBitsWithoutImplicit ≤ mantissa := by exact_mod_cast full
    have power : (2 : ℚ) ^ (format.mantissaBitsWithoutImplicit + exponent) < 2 ^ (format.exponentBias + 1 : ℤ) := by
      rw [zpow_add₀ two_ne_zero, zpow_natCast]
      refine (mul_le_mul_of_nonneg_right full (by positivity)).trans_lt (below.trans_eq ?_)
      unfold limit
      exact_mod_cast rfl
    have := (zpow_lt_zpow_iff_right₀ one_lt_two).mp power
    omega

section Digits

variable {mantissa : ℕ} {exponent : ℤ} (some : 0 < mantissa) (sign : Sign)

/-- The first digit of a mantissa with all digits is left out of its field. -/
theorem ofFields_normal {biased : ℕ}
    (biased_eq : (biased : ℤ) = exponent + format.exponentBias + format.mantissaBitsWithoutImplicit)
    (field : biased + 1 < 2 ^ format.exponentBits) (least : format.minExponent ≤ exponent)
    (full : 2 ^ format.mantissaBitsWithoutImplicit ≤ mantissa) :
    ofFields format sign biased (mantissa - 2 ^ format.mantissaBitsWithoutImplicit) =
      .finite sign mantissa exponent some := by
  have lowest := minExponent_eq format
  have own : significand format biased (mantissa - 2 ^ format.mantissaBitsWithoutImplicit) = mantissa := by
    rw [significand, if_neg (by omega)]
    omega
  unfold ofFields
  rw [if_neg (by omega), dif_neg (by omega)]
  congr 1
  omega

/-- A mantissa with fewer digits is its own field. -/
theorem ofFields_subnormal (wide : 1 < format.exponentBits) :
    ofFields format sign 0 mantissa = .finite sign mantissa format.minExponent some := by
  have range : 2 ^ 2 ≤ 2 ^ format.exponentBits := Nat.pow_le_pow_right (Nat.succ_pos 1) wide
  have own : significand format 0 mantissa = mantissa := by
    rw [significand, if_pos rfl, Nat.zero_add]
  unfold ofFields
  rw [if_neg (by omega), dif_neg (by omega)]
  congr 1
  omega

end Digits

/-- A number within the range is packed without a loss. -/
theorem Holds.unpack_pack {x : UnpackedFloat} {v : ℚ} (holds : Holds format x v) (wide : 1 < format.exponentBits)
    (below : |v| < limit format) : unpack format (pack format x) = x := by
  cases holds with
  | zero sign =>
    have range : 4 ≤ 2 ^ format.exponentBits := Nat.pow_le_pow_right (Nat.succ_pos 1) wide
    change unpack format (packComponents format sign 0 0) = _
    rw [unpack_packComponents]
    unfold ofFields
    rw [if_neg (by simp; omega), dif_pos (by simp [significand])]
  | @finite sign mantissa exponent some canonical =>
    have size : (mantissa : ℚ) * 2 ^ exponent < limit format := by
      refine (le_abs_self _).trans_lt ((Eq.trans_lt ?_) below)
      cases sign
      · exact (abs_neg _).symm
      · rfl
    have field := canonical.field_lt wide some size
    obtain ⟨few, above, full⟩ := (canonical_iff some).mp canonical
    have least := minExponent_eq format
    obtain ⟨biased, biased_eq⟩ :
        ∃ biased : ℕ, (biased : ℤ) = exponent + format.exponentBias + format.mantissaBitsWithoutImplicit :=
      ⟨(exponent + format.exponentBias + format.mantissaBitsWithoutImplicit).toNat, by omega⟩
    rw [← biased_eq] at field
    have field : biased + 1 < 2 ^ format.exponentBits := by exact_mod_cast field
    have digits : format.mantissaBits = 1 + format.mantissaBitsWithoutImplicit := rfl
    have double := two_pow_mantissaBits format
    unfold pack
    dsimp only
    rw [← biased_eq, Int.toNat_natCast, if_neg (Nat.not_le.mpr field)]
    -- Only at the lowest exponent can a canonical mantissa lack digits.
    split
    next normal =>
      have full : 2 ^ format.mantissaBitsWithoutImplicit ≤ mantissa := (Nat.le_log2 some.ne').mp (by omega)
      have rest : mantissa % 2 ^ format.mantissaBitsWithoutImplicit =
          mantissa - 2 ^ format.mantissaBitsWithoutImplicit := by
        rw [Nat.mod_eq_sub_mod full, Nat.mod_eq_of_lt (by omega)]
      rw [unpack_packComponents, BitVec.toNat_ofNat, BitVec.toNat_ofNat, Nat.mod_eq_of_lt (by omega), rest]
      exact ofFields_normal some sign biased_eq field above full
    next subnormal =>
      have short : ¬ 2 ^ format.mantissaBitsWithoutImplicit ≤ mantissa := by
        intro full
        have long := (Nat.le_log2 some.ne').mpr full
        have := (Nat.log2_lt some.ne').mpr few
        omega
      obtain rfl := full.resolve_right short
      rw [unpack_packComponents, BitVec.toNat_ofNat, BitVec.toNat_ofNat, Nat.mod_eq_of_lt (Nat.lt_of_not_le short),
        Nat.zero_mod]
      exact ofFields_subnormal some sign wide

theorem holds_ofFields (sign : Sign) {exponent fraction : ℕ} (finite : exponent < 2 ^ format.exponentBits - 1)
    (within : fraction < 2 ^ format.mantissaBitsWithoutImplicit) :
    Holds format (ofFields format sign exponent fraction)
      (signed sign (significand format exponent fraction * 2 ^ (format.minExponent + (exponent - 1 : ℕ)))) := by
  have double := two_pow_mantissaBits format
  unfold ofFields
  rw [if_neg (by omega)]
  split
  next none =>
    rw [none, Nat.cast_zero, zero_mul]
    exact .signed_zero sign sign
  next some =>
    refine Holds.finite ((canonical_iff (Nat.pos_of_ne_zero some)).mpr ⟨?_, by omega, ?_⟩)
    · unfold significand
      split <;> omega
    · unfold significand
      split
      · exact .inl (by omega)
      · exact .inr (Nat.le_add_right _ _)

def valueOf (format : Format) (word : ℕ) : ℚ :=
  signed (signOf format word) (significand format (exponentOf format word) (word % 2 ^ format.mantissaBitsWithoutImplicit) *
    2 ^ (format.minExponent + (exponentOf format word - 1 : ℕ)))

theorem holds_unpack {bits : BitVec format.numBits}
    (finite : exponentOf format bits.toNat < 2 ^ format.exponentBits - 1) :
    Holds format (unpack format bits) (valueOf format bits.toNat) := by
  rw [unpack_eq]
  exact holds_ofFields _ finite (Nat.mod_lt _ (Nat.two_pow_pos _))

theorem abs_signed (sign : Sign) (x : ℚ) : |signed sign x| = |x| := by
  cases sign
  · exact abs_neg x
  · rfl

theorem abs_valueOf_lt {word : ℕ} (wide : 1 < format.exponentBits)
    (finite : exponentOf format word < 2 ^ format.exponentBits - 1) : |valueOf format word| < limit format := by
  have large : 2 ^ 2 ≤ 2 ^ format.exponentBits := Nat.pow_le_pow_right (Nat.succ_pos 1) wide
  have within := Nat.mod_lt word (Nat.two_pow_pos format.mantissaBitsWithoutImplicit)
  have range := two_pow_exponentBits format
  have least := minExponent_eq format
  have few : significand format (exponentOf format word) (word % 2 ^ format.mantissaBitsWithoutImplicit) <
      2 ^ format.mantissaBits := by
    rw [Format.mantissaBits, pow_add, pow_one]
    unfold significand
    split <;> omega
  have few : (significand format (exponentOf format word) (word % 2 ^ format.mantissaBitsWithoutImplicit) : ℚ) <
      2 ^ format.mantissaBits := by exact_mod_cast few
  unfold valueOf
  rw [abs_signed, abs_of_nonneg (by positivity)]
  calc (significand format (exponentOf format word) (word % 2 ^ format.mantissaBitsWithoutImplicit) : ℚ) *
        2 ^ (format.minExponent + (exponentOf format word - 1 : ℕ))
      < 2 ^ format.mantissaBits * 2 ^ (format.minExponent + (exponentOf format word - 1 : ℕ)) :=
        mul_lt_mul_of_pos_right few (by positivity)
    _ ≤ 2 ^ (format.exponentBias + 1 : ℤ) := by
        rw [← zpow_natCast, ← zpow_add₀ two_ne_zero]
        refine zpow_le_zpow_right₀ one_le_two ?_
        rw [Format.mantissaBits]
        omega
    _ = limit format := by
        unfold limit
        exact_mod_cast rfl

theorem Holds.unique {x : UnpackedFloat} {v w : ℚ} (left : Holds format x v) (right : Holds format x w) : v = w := by
  cases left <;> cases right <;> rfl

section Fields

variable {bits : BitVec format.numBits} {v : ℚ}

theorem Holds.exponentOf_lt (holds : Holds format (unpack format bits) v) :
    exponentOf format bits.toNat < 2 ^ format.exponentBits - 1 := by
  have field : exponentOf format bits.toNat < 2 ^ format.exponentBits := Nat.mod_lt _ (Nat.two_pow_pos _)
  refine Nat.lt_of_le_of_ne (by omega) fun top => ?_
  rw [unpack_eq] at holds
  unfold ofFields at holds
  rw [if_pos top] at holds
  split at holds <;> cases holds

theorem Holds.eq_valueOf (holds : Holds format (unpack format bits) v) : v = valueOf format bits.toNat :=
  holds.unique (holds_unpack holds.exponentOf_lt)

theorem Holds.abs_lt_limit (holds : Holds format (unpack format bits) v) (wide : 1 < format.exponentBits) :
    |v| < limit format := by
  rw [holds.eq_valueOf]
  exact abs_valueOf_lt wide holds.exponentOf_lt

theorem significand_range {exponent fraction : ℕ} (some : 0 < exponent)
    (within : fraction < 2 ^ format.mantissaBitsWithoutImplicit) :
    (2 : ℚ) ^ (exponent - format.exponentBias : ℤ) ≤
        significand format exponent fraction * 2 ^ (format.minExponent + (exponent - 1 : ℕ)) ∧
      significand format exponent fraction * 2 ^ (format.minExponent + (exponent - 1 : ℕ)) <
        (2 : ℚ) ^ (exponent - format.exponentBias + 1 : ℤ) := by
  have least := minExponent_eq format
  have within : (fraction : ℚ) < 2 ^ format.mantissaBitsWithoutImplicit := by exact_mod_cast within
  have unit : (0 : ℚ) < 2 ^ (format.minExponent + (exponent - 1 : ℕ)) := by positivity
  have one : (2 : ℚ) ^ (exponent - format.exponentBias : ℤ) =
      2 ^ format.mantissaBitsWithoutImplicit * 2 ^ (format.minExponent + (exponent - 1 : ℕ)) := by
    rw [← zpow_natCast, ← zpow_add₀ two_ne_zero]
    congr 1
    omega
  rw [zpow_add_one₀ two_ne_zero, one, significand, if_neg some.ne']
  push_cast
  constructor
  · exact mul_le_mul_of_nonneg_right (by linarith [Nat.cast_nonneg (α := ℚ) fraction]) unit.le
  · rw [mul_right_comm]
    exact mul_lt_mul_of_pos_right (by linarith) unit

theorem valueOf_range {word exponent fraction : ℕ} (is : word = unsignedWord format exponent fraction)
    (some : 0 < exponent) (finite : exponent < 2 ^ format.exponentBits - 1)
    (within : fraction < 2 ^ format.mantissaBitsWithoutImplicit) :
    exponentOf format word = exponent ∧ (2 : ℚ) ^ (exponent - format.exponentBias : ℤ) ≤ valueOf format word ∧
      valueOf format word < 2 ^ (exponent - format.exponentBias + 1 : ℤ) := by
  have unit : 0 < 2 ^ format.mantissaBitsWithoutImplicit := Nat.two_pow_pos _
  have high : word / 2 ^ format.mantissaBitsWithoutImplicit = exponent := by
    rw [is, unsignedWord, mul_comm, Nat.mul_add_div unit, Nat.div_eq_of_lt within, Nat.add_zero]
  have low : word % 2 ^ format.mantissaBitsWithoutImplicit = fraction := by
    rw [is, unsignedWord, mul_comm, Nat.mul_add_mod, Nat.mod_eq_of_lt within]
  have field : exponentOf format word = exponent := by
    rw [exponentOf, high, Nat.mod_eq_of_lt (by omega)]
  have sign : signOf format word = .positive := by
    refine if_pos ?_
    rw [pow_add, ← Nat.div_div_eq_div_mul, high]
    exact Nat.div_eq_of_lt (by omega)
  refine ⟨field, ?_⟩
  rw [valueOf, sign, field, low]
  exact significand_range some within

theorem significand_zero_lt {fraction : ℕ} (within : fraction < 2 ^ format.mantissaBitsWithoutImplicit) :
    (significand format 0 fraction : ℚ) * 2 ^ (format.minExponent + (0 - 1 : ℕ)) <
      2 ^ (1 - format.exponentBias : ℤ) := by
  have least := minExponent_eq format
  have within : (fraction : ℚ) < 2 ^ format.mantissaBitsWithoutImplicit := by exact_mod_cast within
  have one : (2 : ℚ) ^ (1 - format.exponentBias : ℤ) =
      2 ^ format.mantissaBitsWithoutImplicit * 2 ^ (format.minExponent + (0 - 1 : ℕ)) := by
    rw [← zpow_natCast, ← zpow_add₀ two_ne_zero]
    congr 1
    omega
  rw [one, significand, if_pos rfl, Nat.zero_add]
  exact mul_lt_mul_of_pos_right within (by positivity)

theorem Holds.fields (holds : Holds format (unpack format bits) v) (positive : 0 < v) :
    ∃ exponent fraction, fraction < 2 ^ format.mantissaBitsWithoutImplicit ∧
      bits.toNat = unsignedWord format exponent fraction ∧
      v = significand format exponent fraction * 2 ^ (format.minExponent + (exponent - 1 : ℕ)) := by
  have within := Nat.mod_lt bits.toNat (Nat.two_pow_pos format.mantissaBitsWithoutImplicit)
  have parts := Nat.div_add_mod bits.toNat (2 ^ format.mantissaBitsWithoutImplicit)
  have value := holds.eq_valueOf
  unfold valueOf at value
  have top : bits.toNat / 2 ^ (format.mantissaBitsWithoutImplicit + format.exponentBits) = 0 := by
    by_contra negative
    rw [signOf, if_neg negative] at value
    have size : (0 : ℚ) ≤ significand format (exponentOf format bits.toNat)
        (bits.toNat % 2 ^ format.mantissaBitsWithoutImplicit) *
          2 ^ (format.minExponent + (exponentOf format bits.toNat - 1 : ℕ)) := by positivity
    change v = -_ at value
    linarith
  rw [signOf, if_pos top] at value
  have small : bits.toNat / 2 ^ format.mantissaBitsWithoutImplicit < 2 ^ format.exponentBits := by
    rw [pow_add, ← Nat.div_div_eq_div_mul] at top
    exact (Nat.div_eq_zero_iff_lt (Nat.two_pow_pos _)).mp top
  refine ⟨exponentOf format bits.toNat, _, within, ?_, value⟩
  rw [unsignedWord, exponentOf, Nat.mod_eq_of_lt small, mul_comm, parts]

theorem Holds.normal_fields {lower upper : ℤ} (holds : Holds format (unpack format bits) v)
    (low : (2 : ℚ) ^ lower ≤ v) (high : v < 2 ^ upper) (normal : 1 - format.exponentBias ≤ lower) :
    ∃ exponent fraction, fraction < 2 ^ format.mantissaBitsWithoutImplicit ∧
      bits.toNat = unsignedWord format exponent fraction ∧
      v = significand format exponent fraction * 2 ^ (format.minExponent + (exponent - 1 : ℕ)) ∧ 0 < exponent ∧
      lower + format.exponentBias ≤ exponent ∧ exponent < upper + format.exponentBias := by
  obtain ⟨exponent, fraction, within, word, value⟩ := holds.fields (low.trans_lt' (by positivity))
  have some : 0 < exponent := by
    refine Nat.pos_of_ne_zero fun none => ?_
    rw [none] at value
    have tiny := significand_zero_lt within
    rw [← value] at tiny
    have := (zpow_lt_zpow_iff_right₀ one_lt_two).mp (low.trans_lt tiny)
    omega
  obtain ⟨least, most⟩ := significand_range some within
  rw [← value] at least most
  have above := (zpow_lt_zpow_iff_right₀ one_lt_two).mp (low.trans_lt most)
  have below := (zpow_lt_zpow_iff_right₀ one_lt_two).mp (least.trans_lt high)
  exact ⟨exponent, fraction, within, word, value, some, by omega, by omega⟩

end Fields

/-- Exponent and mantissa of canonical numbers are ordered in turn as their values are. -/
theorem Canonical.lt_iff {mantissa mantissa' : ℕ} {exponent exponent' : ℤ} (some : 0 < mantissa)
    (some' : 0 < mantissa') (canonical : Canonical format mantissa exponent)
    (canonical' : Canonical format mantissa' exponent') :
    (mantissa : ℚ) * 2 ^ exponent < mantissa' * 2 ^ exponent' ↔
      exponent < exponent' ∨ exponent = exponent' ∧ mantissa < mantissa' := by
  have apart {mantissa mantissa' : ℕ} {exponent exponent' : ℤ} (some : 0 < mantissa) (some' : 0 < mantissa')
      (canonical : Canonical format mantissa exponent) (canonical' : Canonical format mantissa' exponent')
      (less : exponent < exponent') : (mantissa : ℚ) * 2 ^ exponent < mantissa' * 2 ^ exponent' := by
    have few : (mantissa : ℚ) < 2 ^ format.mantissaBits := by exact_mod_cast canonical.lt some
    have full : 2 ^ format.mantissaBitsWithoutImplicit ≤ mantissa' := by
      obtain ⟨-, -, full⟩ := (canonical_iff some').mp canonical'
      have := canonical.least
      exact full.resolve_left (by omega)
    have full : (2 : ℚ) ^ format.mantissaBitsWithoutImplicit ≤ mantissa' := by exact_mod_cast full
    have digits : (2 : ℚ) ^ format.mantissaBits = 2 ^ format.mantissaBitsWithoutImplicit * 2 := by
      rw [Format.mantissaBits, pow_add, mul_comm, pow_one]
    calc (mantissa : ℚ) * 2 ^ exponent < 2 ^ format.mantissaBits * 2 ^ exponent :=
          mul_lt_mul_of_pos_right few (by positivity)
      _ = 2 ^ format.mantissaBitsWithoutImplicit * 2 ^ (exponent + 1) := by
          rw [digits, zpow_add_one₀ two_ne_zero]
          ring
      _ ≤ mantissa' * 2 ^ exponent' :=
          mul_le_mul full (zpow_le_zpow_right₀ one_le_two less) (by positivity) (by positivity)
  rcases lt_trichotomy exponent exponent' with less | rfl | more
  · exact iff_of_true (apart some some' canonical canonical' less) (.inl less)
  · rw [mul_lt_mul_iff_left₀ (by positivity), Nat.cast_lt]
    simp
  · exact iff_of_false (not_lt_of_gt (apart some' some canonical' canonical more)) (by omega)

theorem Holds.compare_eq {x y : UnpackedFloat} {v w : ℚ} (left : Holds format x v) (right : Holds format y w) :
    UnpackedFloat.compare x y = some (compare v w) := by
  have less {v w : ℚ} (lt : v < w) : some .lt = some (compare v w) := congrArg some (compare_lt_iff_lt.mpr lt).symm
  have more {v w : ℚ} (gt : w < v) : some .gt = some (compare v w) := congrArg some (compare_gt_iff_gt.mpr gt).symm
  cases left with
  | zero sign =>
    cases right with
    | zero other => exact congrArg some (compare_eq_iff_eq.mpr rfl).symm
    | @finite other mantissa exponent some canonical =>
      have positive : (0 : ℚ) < mantissa * 2 ^ exponent := by positivity
      cases other
      · exact more (neg_neg_of_pos positive)
      · exact less positive
  | @finite sign mantissa exponent some canonical =>
    have positive : (0 : ℚ) < mantissa * 2 ^ exponent := by positivity
    cases right with
    | zero other =>
      cases sign
      · exact less (neg_neg_of_pos positive)
      · exact more positive
    | @finite other mantissa' exponent' some' canonical' =>
      exact compare_finite sign other positive (by positivity) (canonical.lt_iff some some' canonical')
        (canonical'.lt_iff some' some canonical)

end SlotServe.Floating
