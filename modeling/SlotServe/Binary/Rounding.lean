/-! Rounding of positive fractions to binary floating-point formats: to the nearest number of the
format, and half way to the one whose significand is even. A number is a significand and a power of
two, so that all arithmetic is exact. -/
namespace SlotServe.Binary

def nearestEven (num den : Nat) : Nat :=
  let floor := num / den
  let twice := 2 * (num % den)
  if den < twice || (twice = den && floor % 2 = 1) then floor + 1 else floor

structure Scaled where
  significand : Nat
  exponent : Int
  deriving DecidableEq

def Scaled.fraction (scaled : Scaled) : Nat × Nat :=
  (scaled.significand * Nat.pow 2 scaled.exponent.toNat, Nat.pow 2 (-scaled.exponent).toNat)

structure Format where
  /-- Bits of a significand. -/
  precision : Nat
  /-- The exponent of the smallest numbers. -/
  lowest : Int

def single : Format := ⟨24, -149⟩

def double : Format := ⟨53, -1074⟩

namespace Format

def exponentFor (format : Format) (num den : Nat) : Int :=
  let guess : Int := (Nat.log2 num : Int) - Nat.log2 den - format.precision
  let limit := Nat.pow 2 format.precision * (den * Nat.pow 2 guess.toNat)
  let full := num * Nat.pow 2 (-guess).toNat < limit
  if num = 0 then format.lowest else max format.lowest (if full then guess else guess + 1)

/-- The number of the format nearest to `num / den`, as if exponents had no upper bound. A
significand that rounds up to the next power of two stands for the number above. -/
def round (format : Format) (num den : Nat) : Scaled :=
  let exponent := format.exponentFor num den
  ⟨nearestEven (num * Nat.pow 2 (-exponent).toNat) (den * Nat.pow 2 exponent.toNat), exponent⟩

end Format

def Scaled.exceedsDouble (scaled : Scaled) : Bool :=
  Nat.pow 2 1024 ≤ scaled.significand * Nat.pow 2 scaled.exponent.toNat

end SlotServe.Binary
