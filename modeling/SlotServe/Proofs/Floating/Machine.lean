import SlotServe.Proofs.Floating.Words

/-! Machine numbers of 32 and 64 bits. Bounds that are numbers of the format pass from the exact result of an operation
to the computed one, so that a computation is bounded operation by operation. -/
namespace SlotServe.Floating

open Float.Model (Format UnpackedFloat)
open Float.Model.UnpackedFloat

/-- A type of machine numbers that computes on words of a format. -/
class Machine (α : Type) [Add α] [Sub α] [Mul α] [Div α] where
  format : Format
  wide : 1 < format.exponentBits
  word : α → BitVec format.numBits
  ofWord : BitVec format.numBits → α
  word_ofWord (bits : BitVec format.numBits) : word (ofWord bits) = pack format (unpack format bits)
  word_add (x y : α) : word (x + y) =
    pack format (UnpackedFloat.add format (unpack format (word x)) (unpack format (word y)))
  word_sub (x y : α) : word (x - y) =
    pack format (UnpackedFloat.sub format (unpack format (word x)) (unpack format (word y)))
  word_mul (x y : α) : word (x * y) =
    pack format (UnpackedFloat.mul format (unpack format (word x)) (unpack format (word y)))
  word_div (x y : α) : word (x / y) =
    pack format (UnpackedFloat.div format (unpack format (word x)) (unpack format (word y)))

instance : Machine Float32 where
  format := .binary32
  wide := by decide
  word x := x.toBits.toBitVec
  ofWord bits := Float32.ofBits (.ofBitVec bits)
  word_ofWord _ := rfl
  word_add _ _ := rfl
  word_sub _ _ := rfl
  word_mul _ _ := rfl
  word_div _ _ := rfl

instance : Machine Float where
  format := .binary64
  wide := by decide
  word x := x.toBits.toBitVec
  ofWord bits := Float.ofBits (.ofBitVec bits)
  word_ofWord _ := rfl
  word_add _ _ := rfl
  word_sub _ _ := rfl
  word_mul _ _ := rfl
  word_div _ _ := rfl

variable {α : Type} [Add α] [Sub α] [Mul α] [Div α] [Machine α]

open Machine (format)

def HasValue (x : α) (v : ℚ) : Prop := Holds (format α) (unpack (format α) (Machine.word x)) v

def Within (x : α) (low high : ℚ) : Prop := ∃ v, HasValue x v ∧ low ≤ v ∧ v ≤ high

structure Bounds (format : Format) (low high : ℚ) : Prop where
  low_exact : Exact format low
  high_exact : Exact format high
  low_finite : -limit format < low
  high_finite : high < limit format

def plain (format : Format) (x : ℚ) : Bool :=
  x.num.natAbs ≤ 2 ^ format.mantissaBits && x.den = 2 ^ x.den.log2 && x.den.log2 ≤ (-format.minExponent).toNat

theorem exact_of_plain {format : Format} {x : ℚ} (easy : plain format x = true) :
    Exact format x := by
  unfold plain at easy
  rw [Bool.and_eq_true, Bool.and_eq_true, decide_eq_true_eq, decide_eq_true_eq, decide_eq_true_eq] at easy
  obtain ⟨⟨few, power⟩, least⟩ := easy
  have nonpos := minExponent_nonpos format
  refine ⟨x.num, -x.den.log2, ?_, by omega, ?_⟩
  · rw [Int.abs_eq_natAbs]
    exact_mod_cast few
  · have den : (x.den : ℚ) = 2 ^ x.den.log2 := by exact_mod_cast power
    rw [zpow_neg, zpow_natCast, ← den, ← div_eq_mul_inv, Rat.num_div_den]

theorem plain_finite {format : Format} {x : ℚ} (easy : plain format x = true)
    (narrow : format.mantissaBits ≤ format.exponentBias) : |x| < limit format := by
  unfold plain at easy
  rw [Bool.and_eq_true, Bool.and_eq_true, decide_eq_true_eq] at easy
  have size : |x| ≤ x.num.natAbs := by
    have den : (1 : ℚ) ≤ x.den := by exact_mod_cast x.den_pos
    rw [Nat.cast_natAbs, ← Rat.num_div_den x, abs_div, Nat.abs_cast, Rat.num_div_den]
    push_cast
    exact div_le_self (abs_nonneg _) den
  have few : (x.num.natAbs : ℚ) ≤ 2 ^ format.mantissaBits := by exact_mod_cast easy.1.1
  refine size.trans_lt (few.trans_lt ?_)
  exact pow_lt_pow_right₀ one_lt_two (by omega)

def sound (format : Format) (low high : ℚ) : Bool :=
  format.mantissaBits ≤ format.exponentBias && plain format low && plain format high

theorem bounds_of_sound {format : Format} {low high : ℚ} (easy : sound format low high = true) :
    Bounds format low high := by
  unfold sound at easy
  rw [Bool.and_eq_true, Bool.and_eq_true, decide_eq_true_eq] at easy
  obtain ⟨⟨narrow, low⟩, high⟩ := easy
  exact ⟨exact_of_plain low, exact_of_plain high, (abs_lt.mp (plain_finite low narrow)).1,
    (abs_lt.mp (plain_finite high narrow)).2⟩

def covers (format : Format) (least most low high : ℚ) : Bool :=
  sound format least most && least ≤ low && high ≤ most

theorem covers_iff {format : Format} {least most low high : ℚ} :
    covers format least most low high = true ↔ sound format least most = true ∧ least ≤ low ∧ high ≤ most := by
  rw [covers, Bool.and_eq_true, Bool.and_eq_true, decide_eq_true_eq, decide_eq_true_eq, and_assoc]

theorem bounds_intCast {format : Format} {low high : ℤ} (few : |low| < 2 ^ format.mantissaBits)
    (few' : |high| < 2 ^ format.mantissaBits) (narrow : format.mantissaBits ≤ format.exponentBias) :
    Bounds format low high := by
  have power : (2 : ℚ) ^ format.mantissaBits ≤ limit format := pow_le_pow_right₀ one_le_two (by omega)
  have low_finite : |(low : ℚ)| < limit format := lt_of_lt_of_le (by exact_mod_cast few) power
  have high_finite : |(high : ℚ)| < limit format := lt_of_lt_of_le (by exact_mod_cast few') power
  exact ⟨exact_intCast few.le, exact_intCast few'.le, (abs_lt.mp low_finite).1, (abs_lt.mp high_finite).2⟩

theorem bounds_two_pow {format : Format} {low high : ℤ} (least : format.minExponent ≤ low)
    (least' : format.minExponent ≤ high) (most : high ≤ format.exponentBias) : Bounds format (2 ^ low) (2 ^ high) := by
  refine ⟨exact_two_pow least, exact_two_pow least', ?_, ?_⟩
  · have : (0 : ℚ) < limit format := by unfold limit; positivity
    have : (0 : ℚ) < 2 ^ low := by positivity
    linarith
  · unfold limit
    rw [← zpow_natCast]
    exact zpow_lt_zpow_right₀ one_lt_two (by push_cast; omega)

section Values

variable {x y : α} {v w low high : ℚ}

theorem HasValue.unique (left : HasValue x v) (right : HasValue x w) : v = w := Holds.unique left right

theorem HasValue.exact (has : HasValue x v) : Exact (format α) v := Holds.exact has

theorem HasValue.within (has : HasValue x v) (above : low ≤ v) (below : v ≤ high) : Within x low high :=
  ⟨v, has, above, below⟩

theorem Within.mono {low' high' : ℚ} (within : Within x low high) (below : low' ≤ low) (above : high ≤ high') :
    Within x low' high' := by
  obtain ⟨v, has, least, most⟩ := within
  exact ⟨v, has, below.trans least, most.trans above⟩

theorem Within.value (within : Within x low high) (has : HasValue x v) : low ≤ v ∧ v ≤ high := by
  obtain ⟨w, has', bounds⟩ := within
  rwa [has.unique has']

/-- A number that was packed has its value if it is within range. -/
theorem hasValue_of_packed {u : UnpackedFloat} (packed : Machine.word x = pack (format α) u)
    (holds : Holds (format α) u v) (finite : |v| < limit (format α)) : HasValue x v := by
  unfold HasValue
  rw [packed, holds.unpack_pack Machine.wide finite]
  exact holds

/-- What is computed within range is nearest to the exact value. -/
theorem near_of_nearest {u : UnpackedFloat} {near : ℚ} (packed : Machine.word x = pack (format α) u)
    (holds : Holds (format α) u near) (nearest : Nearest (format α) v near) (bounds : Bounds (format α) low high)
    (above : low ≤ v) (below : v ≤ high) : HasValue x near := by
  refine hasValue_of_packed packed holds (abs_lt.mpr ⟨?_, ?_⟩)
  · exact bounds.low_finite.trans_le (nearest.ge bounds.low_exact above)
  · exact (nearest.le bounds.high_exact below).trans_lt bounds.high_finite

theorem within_of_nearest {u : UnpackedFloat} {near : ℚ} (packed : Machine.word x = pack (format α) u)
    (holds : Holds (format α) u near) (nearest : Nearest (format α) v near) (bounds : Bounds (format α) low high)
    (above : low ≤ v) (below : v ≤ high) : Within x low high :=
  ⟨near, near_of_nearest packed holds nearest bounds above below, nearest.ge bounds.low_exact above,
    nearest.le bounds.high_exact below⟩

theorem HasValue.add_near (left : HasValue x v) (right : HasValue y w) (bounds : Bounds (format α) low high)
    (above : low ≤ v + w) (below : v + w ≤ high) :
    ∃ near, HasValue (x + y) near ∧ Nearest (format α) (v + w) near := by
  obtain ⟨near, holds, nearest⟩ := Holds.add left right
  exact ⟨near, near_of_nearest (Machine.word_add x y) holds nearest bounds above below, nearest⟩

theorem HasValue.sub_near (left : HasValue x v) (right : HasValue y w) (bounds : Bounds (format α) low high)
    (above : low ≤ v - w) (below : v - w ≤ high) :
    ∃ near, HasValue (x - y) near ∧ Nearest (format α) (v - w) near := by
  obtain ⟨near, holds, nearest⟩ := Holds.sub left right
  exact ⟨near, near_of_nearest (Machine.word_sub x y) holds nearest bounds above below, nearest⟩

theorem HasValue.mul_near (left : HasValue x v) (right : HasValue y w) (bounds : Bounds (format α) low high)
    (above : low ≤ v * w) (below : v * w ≤ high) :
    ∃ near, HasValue (x * y) near ∧ Nearest (format α) (v * w) near := by
  obtain ⟨near, holds, nearest⟩ := Holds.mul left right
  exact ⟨near, near_of_nearest (Machine.word_mul x y) holds nearest bounds above below, nearest⟩

theorem HasValue.add (left : HasValue x v) (right : HasValue y w) (bounds : Bounds (format α) low high)
    (above : low ≤ v + w) (below : v + w ≤ high) : Within (x + y) low high := by
  obtain ⟨near, holds, nearest⟩ := Holds.add left right
  exact within_of_nearest (Machine.word_add x y) holds nearest bounds above below

theorem HasValue.sub (left : HasValue x v) (right : HasValue y w) (bounds : Bounds (format α) low high)
    (above : low ≤ v - w) (below : v - w ≤ high) : Within (x - y) low high := by
  obtain ⟨near, holds, nearest⟩ := Holds.sub left right
  exact within_of_nearest (Machine.word_sub x y) holds nearest bounds above below

theorem HasValue.mul (left : HasValue x v) (right : HasValue y w) (bounds : Bounds (format α) low high)
    (above : low ≤ v * w) (below : v * w ≤ high) : Within (x * y) low high := by
  obtain ⟨near, holds, nearest⟩ := Holds.mul left right
  exact within_of_nearest (Machine.word_mul x y) holds nearest bounds above below

theorem HasValue.div (left : HasValue x v) (right : HasValue y w) (some : w ≠ 0)
    (bounds : Bounds (format α) low high) (above : low ≤ v / w) (below : v / w ≤ high) : Within (x / y) low high := by
  obtain ⟨near, holds, nearest⟩ := Holds.div left right some
  exact within_of_nearest (Machine.word_div x y) holds nearest bounds above below

theorem hasValue_word (finite : exponentOf (format α) (Machine.word x).toNat < 2 ^ (format α).exponentBits - 1) :
    HasValue x (valueOf (format α) (Machine.word x).toNat) := holds_unpack finite

theorem hasValue_ofWord (bits : BitVec (format α).numBits)
    (finite : exponentOf (format α) bits.toNat < 2 ^ (format α).exponentBits - 1) :
    HasValue (Machine.ofWord bits : α) (valueOf (format α) bits.toNat) :=
  hasValue_of_packed (Machine.word_ofWord bits) (holds_unpack finite) (abs_valueOf_lt Machine.wide finite)

end Values

section Intervals

variable {x y : α} {low high low' high' least most : ℚ}

theorem Within.add (left : Within x low high) (right : Within y low' high')
    (covered : covers (format α) least most (low + low') (high + high') = true) : Within (x + y) least most := by
  obtain ⟨v, has, _, _⟩ := left
  obtain ⟨w, has', _, _⟩ := right
  obtain ⟨bounds, above, below⟩ := covers_iff.mp covered
  exact has.add has' (bounds_of_sound bounds) (by linarith) (by linarith)

theorem Within.sub (left : Within x low high) (right : Within y low' high')
    (covered : covers (format α) least most (low - high') (high - low') = true) : Within (x - y) least most := by
  obtain ⟨v, has, _, _⟩ := left
  obtain ⟨w, has', _, _⟩ := right
  obtain ⟨bounds, above, below⟩ := covers_iff.mp covered
  exact has.sub has' (bounds_of_sound bounds) (by linarith) (by linarith)

theorem Within.mul (left : Within x low high) (right : Within y low' high')
    (covered : covers (format α) least most (min (min (low * low') (low * high')) (min (high * low') (high * high')))
      (max (max (low * low') (low * high')) (max (high * low') (high * high'))) = true) :
    Within (x * y) least most := by
  obtain ⟨v, has, lv, vh⟩ := left
  obtain ⟨w, has', lw, wh⟩ := right
  obtain ⟨bounds, above, below⟩ := covers_iff.mp covered
  simp only [le_min_iff] at above
  simp only [max_le_iff] at below
  obtain ⟨⟨a, b⟩, c, d⟩ := above
  obtain ⟨⟨a', b'⟩, c', d'⟩ := below
  -- A product is between those of the ends, which of them depends on the signs.
  refine has.mul has' (bounds_of_sound bounds) ?_ ?_
  · rcases le_total 0 w with positive | negative
    · rcases le_total 0 low with up | down <;> nlinarith
    · rcases le_total 0 high with up | down <;> nlinarith
  · rcases le_total 0 w with positive | negative
    · rcases le_total 0 high with up | down <;> nlinarith
    · rcases le_total 0 low with up | down <;> nlinarith

end Intervals

end SlotServe.Floating
