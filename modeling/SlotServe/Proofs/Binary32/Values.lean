import SlotServe.Proofs.Floating.Machine
import SlotServe.Proofs.Binary32.Order

/-! The values of 32-bit numbers: they order the numbers, and conversion to 64 bits and back keeps them as far as the
format has them. -/
namespace SlotServe.Binary32

open Float.Model (Format UnpackedFloat)
open Float.Model.UnpackedFloat
open Floating

variable {x y : Float32} {v w low high : ℚ}

theorem isNaN_eq_false (has : HasValue x v) : x.isNaN = false := by
  change x.toModel.unpack.isNaN = false
  have holds : Holds .binary32 x.toModel.unpack v := has
  generalize x.toModel.unpack = unpacked at holds
  cases holds <;> rfl

theorem compare_values (has : HasValue x v) (has' : HasValue y w) :
    x.toModel.unpack.compare y.toModel.unpack = some (compare v w) := Holds.compare_eq has has'

theorem lt_iff_lt (has : HasValue x v) (has' : HasValue y w) : x < y ↔ v < w := by
  have unfolded : x < y ↔ (x.toModel.unpack.compare y.toModel.unpack == some .lt) = true := decide_eq_true_iff
  rw [unfolded, compare_values has has']
  simp [compare_lt_iff_lt]

theorem le_iff_le (has : HasValue x v) (has' : HasValue y w) : x ≤ y ↔ v ≤ w := by
  have unfolded : x ≤ y ↔ (x.toModel.unpack.compare y.toModel.unpack).any (·.isLE) = true := decide_eq_true_iff
  rw [unfolded, compare_values has has', ← compare_le_iff_le]
  cases compare v w <;> decide

theorem beq_eq (has : HasValue x v) (has' : HasValue y w) : (x == y) = decide (v = w) := by
  change (x.toModel.unpack.compare y.toModel.unpack == some .eq) = _
  rw [compare_values has has']
  rcases lt_trichotomy v w with less | rfl | more
  · rw [compare_lt_iff_lt.mpr less]
    simp [less.ne]
  · rw [compare_eq_iff_eq.mpr rfl]
    simp
  · rw [compare_gt_iff_gt.mpr more]
    simp [more.ne']

theorem value_cases (x : Float32) :
    x.isNaN = true ∨ (∃ sign, x.toModel.unpack = .infinity sign) ∨ ∃ v, HasValue x v := by
  by_cases finite : exponentOf .binary32 x.toBits.toNat < 255
  · exact .inr (.inr ⟨_, hasValue_word (x := x) finite⟩)
  · have field : exponentOf .binary32 x.toBits.toNat < 256 := Nat.mod_lt _ (by decide)
    have top : x.toBits.toNat / 0x800000 % 0x100 = 0xff := by
      change ¬ x.toBits.toNat / 0x800000 % 0x100 < 255 at finite
      change x.toBits.toNat / 0x800000 % 0x100 < 256 at field
      omega
    by_cases bare : x.toBits.toNat % 0x800000 = 0
    · refine .inr (.inl ⟨signOf .binary32 x.toBits.toNat, ?_⟩)
      rw [unpack_eq]
      exact (if_pos top).trans (if_pos bare)
    · refine .inl ?_
      have none : x.toModel.unpack = .notANumber := by
        rw [unpack_eq]
        exact (if_pos top).trans (if_neg bare)
      change x.toModel.unpack.isNaN = true
      rw [none]
      rfl

theorem lt_infinity {sign : Sign} (infinite : x.toModel.unpack = .infinity sign) (has : HasValue y w) :
    (x < y ↔ sign = .negative) ∧ (y ≤ x ↔ sign = .positive) := by
  have holds : Holds .binary32 y.toModel.unpack w := has
  have less : x < y ↔ (x.toModel.unpack.compare y.toModel.unpack == some .lt) = true := decide_eq_true_iff
  have above : y ≤ x ↔ (y.toModel.unpack.compare x.toModel.unpack).any (·.isLE) = true := decide_eq_true_iff
  rw [less, above, infinite]
  generalize y.toModel.unpack = other at holds
  cases holds with
  | zero sign' => cases sign <;> cases sign' <;> simp [UnpackedFloat.compare]
  | @finite sign' => cases sign <;> cases sign' <;> simp [UnpackedFloat.compare]

theorem value_between {a b : Float32} (least : HasValue a low) (most : HasValue b high) (above : a ≤ x)
    (below : x < b) : ∃ v, HasValue x v ∧ low ≤ v ∧ v < high := by
  rcases value_cases x with none | ⟨sign, infinite⟩ | ⟨v, has⟩
  · rw [(Binary32.le_iff.mp above).2.1] at none
    cases none
  · have negative := (lt_infinity infinite most).1.mp below
    rw [(lt_infinity infinite least).2.mp above] at negative
    cases negative
  · exact ⟨v, has, (le_iff_le least has).mp above, (lt_iff_lt has most).mp below⟩

theorem within_ofBits {word : UInt32} (finite : exponentOf .binary32 word.toNat < 255)
    (above : low ≤ valueOf .binary32 word.toNat)
    (below : valueOf .binary32 word.toNat ≤ high) :
    Within (Float32.ofBits word) low high :=
  ⟨_, hasValue_ofWord (α := Float32) word.toBitVec finite, above, below⟩

theorem within_ofBits64 {word : UInt64} (finite : exponentOf .binary64 word.toNat < 2047)
    (above : low ≤ valueOf .binary64 word.toNat)
    (below : valueOf .binary64 word.toNat ≤ high) :
    Within (Float.ofBits word) low high :=
  ⟨_, hasValue_ofWord (α := Float) word.toBitVec finite, above, below⟩

theorem hasValue_widen (has : HasValue x v) : HasValue (widen x) v := by
  obtain ⟨near, holds, nearest⟩ := Holds.rounded .binary64 has
  have exact : Exact .binary64 v := by
    obtain ⟨digits, exponent, few, least, value⟩ := has.exact
    exact ⟨digits, exponent, few.trans (by decide), least.trans' (by decide), value⟩
  have range : |v| < limit .binary64 := by
    refine (Holds.abs_lt_limit has (by decide)).trans_le ?_
    exact pow_le_pow_right₀ one_le_two (by decide)
  rw [nearest.eq exact] at holds
  exact hasValue_of_packed (x := widen x) rfl holds range

theorem narrow_near {z : Float} (has : HasValue z v) (bounds : Bounds .binary32 low high) (above : low ≤ v)
    (below : v ≤ high) : ∃ near, HasValue (narrow z) near ∧ Nearest .binary32 v near := by
  obtain ⟨near, holds, nearest⟩ := Holds.rounded .binary32 has
  exact ⟨near, near_of_nearest (x := narrow z) rfl holds nearest bounds above below, nearest⟩

end SlotServe.Binary32
