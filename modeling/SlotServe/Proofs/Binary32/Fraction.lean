import SlotServe.Proofs.Binary32.Order
import SlotServe.Proofs.Decimal.Shortest
import SlotServe.Toml.Writer

/-! 32-bit numbers through decimals and back. A finite number is its sign and its magnitude, and the nearest
32-bit number to that magnitude is the number itself; so what its shortest decimal reads as is the number,
negative zero and the infinities included. -/
namespace SlotServe

open Binary (Scaled Format single)

namespace Binary32

variable {x : Float32}

def unsignedBits (x : Float32) : Nat := x.toBits.toNat % 0x80000000

theorem unsignedBits_eq (x : Float32) : unsignedBits x = exponentField x * 0x800000 + fractionField x := by
  unfold unsignedBits exponentField fractionField
  omega

theorem ofMagnitude_unsignedBits (x : Float32) : ofMagnitude (isNegative x) (unsignedBits x) = x := by
  have range := toNat_toBits_lt x
  have bits : (if isNegative x then 0x80000000 + unsignedBits x else unsignedBits x) = x.toBits.toNat := by
    simp only [isNegative, unsignedBits, decide_eq_true_eq]
    split <;> omega
  rw [ofMagnitude, bits, UInt32.ofNat_toNat, Float32.ofBits_toBits]

theorem magnitude_isSingle (finite : isFinite x = true) : (magnitude x).IsSingle := by
  have fraction : fractionField x < 0x800000 := Nat.mod_lt _ (by decide)
  have exponent : exponentField x < 255 := of_decide_eq_true finite
  unfold magnitude
  split <;> constructor <;> dsimp only <;> omega

theorem bitsOf_magnitude (finite : isFinite x = true) : bitsOf (magnitude x) = unsignedBits x := by
  have fraction : fractionField x < 0x800000 := Nat.mod_lt _ (by decide)
  have exponent : exponentField x < 255 := of_decide_eq_true finite
  rw [unsignedBits_eq]
  unfold magnitude bitsOf infinityBits
  split <;> dsimp only <;> omega

/-- A finite number is the 32-bit number nearest to itself, whatever fraction it is written as. -/
theorem ofFraction_eq (finite : isFinite x = true) {num den : Nat} (some : 0 < den)
    (value : (num : ℚ) / den = (magnitude x).value) : ofFraction (isNegative x) num den = x := by
  have form := magnitude_isSingle finite
  have nearest : single.round num den = magnitude x :=
    Format.round_canonical some value form.few form.least form.full
  rw [ofFraction, nearest, bitsOf_magnitude finite, ofMagnitude_unsignedBits]

theorem toFloat32_pointed (finite : isFinite x = true) :
    (Decimal.pointed (isNegative x) (Decimal.shortest (magnitude x))).toFloat32 = x := by
  obtain ⟨found, read, value⟩ := Decimal.shortest_reads (magnitude_isSingle finite)
  have sign (numeral : Decimal.Numeral) : (Decimal.pointed (isNegative x) numeral).negative = isNegative x := by
    unfold Decimal.pointed
    split <;> rfl
  rw [Decimal.Numeral.toFloat32, Decimal.pointed_reads, read, sign]
  exact ofFraction_eq finite found.fraction_pos (found.fraction_value.trans value)

theorem isNotNumber_eq_false (number : x.isNaN = false) : isNotNumber x = false := by
  have ordered := (ordered number).2
  change exponentField x * 0x800000 + fractionField x ≤ 0xff * 0x800000 at ordered
  by_contra none
  rw [Bool.not_eq_false, isNotNumber, Bool.and_eq_true, decide_eq_true_eq, decide_eq_true_eq] at none
  omega

theorem ofMagnitude_infinityBits (number : x.isNaN = false) (infinite : isFinite x = false) :
    ofMagnitude (isNegative x) infinityBits = x := by
  have ordered := (ordered number).2
  change exponentField x * 0x800000 + fractionField x ≤ 0xff * 0x800000 at ordered
  have exponent : ¬ exponentField x < 255 := of_decide_eq_false infinite
  have bits : infinityBits = unsignedBits x := by
    rw [unsignedBits_eq, infinityBits]
    omega
  rw [bits, ofMagnitude_unsignedBits]

end Binary32

def Real.written (x : Float32) : Real :=
  if Binary32.isFinite x then
    .finite (Decimal.pointed (Binary32.isNegative x) (Decimal.shortest (Binary32.magnitude x)))
  else .infinite (Binary32.isNegative x)

theorem Real.toFloat32_written {x : Float32} (number : x.isNaN = false) : (written x).toFloat32 = x := by
  unfold written
  split
  next finite => exact Binary32.toFloat32_pointed finite
  next infinite => exact Binary32.ofMagnitude_infinityBits number (Bool.not_eq_true _ ▸ infinite)

end SlotServe
