import SlotServe.Binary.Rounding
/-! Binary floating-point numbers of 32 bits: their total order, their values as signed fractions, and how
wider and narrower numbers convert to them. -/
namespace SlotServe.Binary32

open Binary (Scaled single double)
open Float.Model (UnpackedFloat)

def place (x : Float32) : Nat :=
  let bits := x.toBits.toNat
  -- Negative numbers stand below the positive ones, the larger magnitude first.
  if bits < 0x80000000 then 0x80000000 + bits else 0xffffffff - bits

def negativeInfinity : Float32 := Float32.ofBits 0xFF800000

def infinity : Float32 := Float32.ofBits 0x7F800000

def infinityBits : Nat := 0x7F800000

def bitsOf (scaled : Scaled) : Nat :=
  min ((scaled.exponent + 149).toNat * 0x800000 + scaled.significand) infinityBits

def ofMagnitude (negative : Bool) (bits : Nat) : Float32 :=
  Float32.ofBits (UInt32.ofNat (if negative then 0x80000000 + bits else bits))

def ofFraction (negative : Bool) (num den : Nat) : Float32 :=
  ofMagnitude negative (bitsOf (single.round num den))

def ofInt (number : Int) : Float32 := ofFraction (number < 0) number.natAbs 1

def isNegative (x : Float32) : Bool := 0x80000000 ≤ x.toBits.toNat

def exponentField (x : Float32) : Nat := x.toBits.toNat / 0x800000 % 256

def fractionField (x : Float32) : Nat := x.toBits.toNat % 0x800000

def isFinite (x : Float32) : Bool := exponentField x < 255

def isNotNumber (x : Float32) : Bool := exponentField x = 255 && fractionField x ≠ 0

def magnitude (x : Float32) : Scaled :=
  if exponentField x = 0 then ⟨fractionField x, -149⟩
  else ⟨0x800000 + fractionField x, (exponentField x : Int) - 150⟩

def rounded (format : Float.Model.Format) : UnpackedFloat → UnpackedFloat
  | .finite sign significand exponent _ => UnpackedFloat.round format sign significand exponent
  | special => special

/-- A 16-bit number with the exponents of a 32-bit one is the upper half of one. What is no number is made quiet. -/
def brainBits (bits : UInt16) : UInt32 :=
  if 0x7F80 < bits &&& 0x7FFF then (bits ||| 0x40).toUInt32 <<< 16 else bits.toUInt32 <<< 16

def halfBits (bits : UInt16) : UInt32 :=
  let sign := (bits / 0x8000).toUInt32 * 0x80000000
  let exponent := (bits / 0x400 % 0x20).toUInt32
  let fraction := (bits % 0x400).toUInt32
  if exponent = 31 then
    if fraction = 0 then sign + 0x7F800000 else sign + (0x7FC00000 ||| fraction * 0x2000)
  -- The smallest numbers count units of `2 ^ -24`.
  else if exponent = 0 then sign + (ofFraction false fraction.toNat 0x1000000).toBits
  else sign + (exponent + 112) * 0x800000 + fraction * 0x2000

def ofBrain (bits : UInt16) : Float32 := Float32.ofBits (brainBits bits)

def ofHalf (bits : UInt16) : Float32 := Float32.ofBits (halfBits bits)

def widen (x : Float32) : Float := ⟨.pack (rounded .binary64 x.toModel.unpack)⟩

def narrow (x : Float) : Float32 := ⟨.pack (rounded .binary32 x.toModel.unpack)⟩

end SlotServe.Binary32
