import SlotServe.Binary32.Basic
import SlotServe.Proofs.Floating.Fields

/-! The order of 32-bit numbers. Comparison is that of a whole number that each number has as its key, the two
zeros the same one; what is no number compares with nothing. The total order refines it: it sets the two zeros
apart and puts what is no number last. -/
namespace SlotServe.Binary32

open Float.Model (UnpackedFloat)
open Float.Model.UnpackedFloat
open Floating (ofFields unsignedWord signed signOf Ordered compare_ofFields)

/-- The bits without the sign, counted below zero for a negative number. -/
def key (x : Float32) : ℤ :=
  if x.toBits.toNat < 0x80000000 then x.toBits.toNat else 0x80000000 - x.toBits.toNat

variable {x y z : Float32}

theorem toNat_toBits_lt (x : Float32) : x.toBits.toNat < 0x100000000 := x.toBits.toNat_lt

theorem unpack_eq (x : Float32) : x.toModel.unpack = ofFields .binary32 (signOf .binary32 x.toBits.toNat)
    (x.toBits.toNat / 0x800000 % 0x100) (x.toBits.toNat % 0x800000) :=
  @Floating.unpack_eq .binary32 x.toBits.toBitVec

theorem key_eq (x : Float32) : key x = signed (signOf .binary32 x.toBits.toNat)
    (unsignedWord .binary32 (x.toBits.toNat / 0x800000 % 0x100) (x.toBits.toNat % 0x800000) : ℤ) := by
  have range := toNat_toBits_lt x
  have size : unsignedWord .binary32 (x.toBits.toNat / 0x800000 % 0x100) (x.toBits.toNat % 0x800000) =
      x.toBits.toNat % 0x80000000 := by
    change x.toBits.toNat / 0x800000 % 0x100 * 0x800000 + x.toBits.toNat % 0x800000 = _
    omega
  rw [size]
  unfold key
  split
  next low =>
    have sign : signOf .binary32 x.toBits.toNat = .positive := if_pos (Nat.div_eq_of_lt low)
    rw [sign, Nat.mod_eq_of_lt low]
    rfl
  next high =>
    have sign : signOf .binary32 x.toBits.toNat = .negative := by
      refine if_neg fun none => high ?_
      change x.toBits.toNat / 0x80000000 = 0 at none
      omega
    rw [sign]
    change _ = -((x.toBits.toNat % 0x80000000 : ℕ) : ℤ)
    omega

theorem ordered (number : x.isNaN = false) :
    Ordered .binary32 (x.toBits.toNat / 0x800000 % 0x100) (x.toBits.toNat % 0x800000) := by
  refine ⟨Nat.mod_lt _ (by decide), ?_⟩
  change x.toBits.toNat / 0x800000 % 0x100 * 0x800000 + x.toBits.toNat % 0x800000 ≤ 0xff * 0x800000
  by_cases above : x.toBits.toNat / 0x800000 % 0x100 = 0xff ∧ ¬ x.toBits.toNat % 0x800000 = 0
  · have none : x.toModel.unpack = .notANumber := by
      rw [unpack_eq]
      exact (if_pos above.1).trans (if_neg above.2)
    change x.toModel.unpack.isNaN = false at number
    rw [none] at number
    cases number
  · omega

theorem compare_eq (number : x.isNaN = false) (number' : y.isNaN = false) :
    x.toModel.unpack.compare y.toModel.unpack = some (compare (key x) (key y)) := by
  rw [unpack_eq, unpack_eq, compare_ofFields _ _ (ordered number) (ordered number'), key_eq, key_eq]

theorem unpack_of_isNaN (none : x.isNaN = true) : x.toModel.unpack = .notANumber := by
  change x.toModel.unpack.isNaN = true at none
  unfold UnpackedFloat.isNaN at none
  split at none
  next same => exact same
  next => cases none

theorem compare_none (none : ¬ (x.isNaN = false ∧ y.isNaN = false)) :
    x.toModel.unpack.compare y.toModel.unpack = Option.none := by
  by_cases number : x.isNaN = false
  · have none' : y.isNaN = true := eq_true_of_ne_false fun number' => none ⟨number, number'⟩
    rw [unpack_of_isNaN none']
    cases x.toModel.unpack <;> rfl
  · rw [unpack_of_isNaN (eq_true_of_ne_false number)]
    rfl

theorem lt_iff : x < y ↔ x.isNaN = false ∧ y.isNaN = false ∧ key x < key y := by
  have unfolded : x < y ↔ (x.toModel.unpack.compare y.toModel.unpack == some .lt) = true := decide_eq_true_iff
  rw [unfolded, ← and_assoc]
  by_cases numbers : x.isNaN = false ∧ y.isNaN = false
  · rw [compare_eq numbers.1 numbers.2, and_iff_right numbers]
    simp [compare_lt_iff_lt]
  · rw [compare_none numbers]
    exact iff_of_false (by decide) fun both => numbers both.1

theorem le_iff : x ≤ y ↔ x.isNaN = false ∧ y.isNaN = false ∧ key x ≤ key y := by
  have unfolded : x ≤ y ↔ (x.toModel.unpack.compare y.toModel.unpack).any (·.isLE) = true := decide_eq_true_iff
  rw [unfolded, ← and_assoc]
  by_cases numbers : x.isNaN = false ∧ y.isNaN = false
  · rw [compare_eq numbers.1 numbers.2, and_iff_right numbers]
    simp [Std.isLE_compare]
  · rw [compare_none numbers]
    exact iff_of_false (by decide) fun both => numbers both.1

theorem le_trans (first : x ≤ y) (second : y ≤ z) : x ≤ z := by
  rw [le_iff] at *
  exact ⟨first.1, second.2.1, first.2.2.trans second.2.2⟩

theorem not_le_of_lt (less : x < y) : ¬ y ≤ x := by
  rw [lt_iff] at less
  rw [le_iff]
  omega

theorem lt_of_le_of_lt (first : x ≤ y) (second : y < z) : x < z := by
  rw [le_iff] at first
  rw [lt_iff] at *
  exact ⟨first.1, second.2.1, first.2.2.trans_lt second.2.2⟩

theorem place_lt_of_key_lt (less : key x < key y) : place x < place y := by
  have range := toNat_toBits_lt x
  have range' := toNat_toBits_lt y
  unfold key at less
  unfold place
  dsimp only
  split <;> split <;> simp_all only [if_true, if_false] <;> omega

theorem eq_of_place_eq (same : place x = place y) : x = y := by
  have range := toNat_toBits_lt x
  have range' := toNat_toBits_lt y
  refine Float32.toBits_inj.mp (UInt32.toNat_inj.mp ?_)
  unfold place at same
  dsimp only at same
  split at same <;> split at same <;> omega

/-- Two numbers that compare as equal are the same, or the two zeros. -/
theorem eq_or_zeros_of_key_eq (same : key x = key y) (below : place x ≤ place y) :
    x = y ∨ x.toBits = 0x80000000 ∧ y.toBits = 0 := by
  have range := toNat_toBits_lt x
  have range' := toNat_toBits_lt y
  rcases Nat.eq_or_lt_of_le below with equal | less
  · exact .inl (eq_of_place_eq equal)
  · refine .inr ?_
    rw [← UInt32.toNat_inj, ← UInt32.toNat_inj]
    change x.toBits.toNat = 0x80000000 ∧ y.toBits.toNat = 0
    unfold key at same
    unfold place at less
    dsimp only at less
    split at same <;> split at same <;> simp_all only [if_true, if_false] <;> omega

end SlotServe.Binary32
