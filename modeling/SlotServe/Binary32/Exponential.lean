import SlotServe.Binary32.Basic
/-! The exponential and the natural logarithm of 32-bit numbers, computed in 64-bit arithmetic
from short tables and a cubic: 32 roots of two for the exponential, 16 reciprocals with their
logarithms for the logarithm. The last rounding, to 32 bits, hides the error of the cubic in all
but the closest cases, so each operation below is part of the result and keeps its place. -/
namespace SlotServe.Binary32

/-- `2 ^ (i / 32)` as bits, less `i` in the exponent field's lowest five fraction places. -/
def rootBits : List UInt64 :=
  [0x3ff0000000000000, 0x3fefd9b0d3158574, 0x3fefb5586cf9890f, 0x3fef9301d0125b51,
   0x3fef72b83c7d517b, 0x3fef54873168b9aa, 0x3fef387a6e756238, 0x3fef1e9df51fdee1,
   0x3fef06fe0a31b715, 0x3feef1a7373aa9cb, 0x3feedea64c123422, 0x3feece086061892d,
   0x3feebfdad5362a27, 0x3feeb42b569d4f82, 0x3feeab07dd485429, 0x3feea47eb03a5585,
   0x3feea09e667f3bcd, 0x3fee9f75e8ec5f74, 0x3feea11473eb0187, 0x3feea589994cce13,
   0x3feeace5422aa0db, 0x3feeb737b0cdc5e5, 0x3feec49182a3f090, 0x3feed503b23e255d,
   0x3feee89f995ad3ad, 0x3feeff76f2fb5e47, 0x3fef199bdd85529c, 0x3fef3720dcef9069,
   0x3fef5818dcfba487, 0x3fef7c97337b9b5f, 0x3fefa4afa2a490da, 0x3fefd0765b6e4540]

-- `32 / ln 2`
def stepsPerUnit : Float := Float.ofBits 0x40471547652b82fe

/-- Adding this number rounds to a whole number and leaves it in the low bits. -/
def wholeShift : Float := Float.ofBits 0x4338000000000000

def exponentialCubic : Float := Float.ofBits 0x3ebc6af84b912394
def exponentialSquare : Float := Float.ofBits 0x3f2ebfce50fac4f3
def exponentialLine : Float := Float.ofBits 0x3f962e42ff0c52d6

def exponentialWithin (x : Float) : Float :=
  let steps := stepsPerUnit * x
  let shifted := steps + wholeShift
  -- The low bits count the steps: five of them choose a root, the others move the exponent.
  let whole := shifted.toBits
  let rest := steps - (shifted - wholeShift)
  let scale := Float.ofBits (rootBits.getD (whole % 32).toNat 0 + (whole <<< 47))
  let upper := exponentialCubic * rest + exponentialSquare
  let square := rest * rest
  let lower := exponentialLine * rest + 1
  (upper * square + lower) * scale

def exp (x : Float32) : Float32 :=
  let largest := Float32.ofBits 0x42b17217
  let least := Float32.ofBits 0xc2cff1b4
  -- Past the one the result overflows, below the other it vanishes.
  if x.isNaN then x
  else if largest < x then infinity
  else if x < least then 0
  else narrow (exponentialWithin (widen x))

-- Reciprocals of sixteen points of an octave, with the logarithms of the points.
def reciprocals : List (UInt64 × UInt64) :=
  [(0x3ff661ec79f8f3be, 0xbfd57bf7808caade), (0x3ff571ed4aaf883d, 0xbfd2bef0a7c06ddb),
   (0x3ff49539f0f010b0, 0xbfd01eae7f513a67), (0x3ff3c995b0b80385, 0xbfcb31d8a68224e9),
   (0x3ff30d190c8864a5, 0xbfc6574f0ac07758), (0x3ff25e227b0b8ea0, 0xbfc1aa2bc79c8100),
   (0x3ff1bb4a4a1a343f, 0xbfba4e76ce8c0e5e), (0x3ff12358f08ae5ba, 0xbfb1973c5a611ccc),
   (0x3ff0953f419900a7, 0xbfa252f438e10c1e), (0x3ff0000000000000, 0),
   (0x3fee608cfd9a47ac, 0x3faaa5aa5df25984), (0x3feca4b31f026aa0, 0x3fbc5e53aa362eb4),
   (0x3feb2036576afce6, 0x3fc526e57720db08), (0x3fe9c2d163a1aa2d, 0x3fcbc2860d224770),
   (0x3fe886e6037841ed, 0x3fd1058bc8a07ee1), (0x3fe767dcf5534862, 0x3fd4043057b6ee09)]

-- `ln 2`
def octave : Float := Float.ofBits 0x3fe62e42fefa39ef

def logarithmCubic : Float := Float.ofBits 0xbfd00ea348b88334
def logarithmSquare : Float := Float.ofBits 0x3fd5575b0be00b6a
def logarithmLine : Float := Float.ofBits 0xbfdffffef20a4123

/-- The logarithm of a positive normal number from its bits: the number is `2 ^ k` times a factor
near one of the sixteen points. -/
def logarithmOfBits (bits : UInt32) : Float :=
  let offset := bits - 0x3f330000
  let point := reciprocals.getD ((offset >>> 19) % 16).toNat (0, 0)
  let octaves := (offset.toInt32 >>> 23).toInt
  let factor := widen (Float32.ofBits (bits - (offset &&& 0xff800000)))
  let rest := factor * Float.ofBits point.1 - 1
  let base := Float.ofBits point.2 + Float.ofInt octaves * octave
  let square := rest * rest
  let upper := logarithmSquare * rest + logarithmLine
  (logarithmCubic * square + upper) * square + (base + rest)

def log (x : Float32) : Float32 :=
  if x.isNaN || x < 0 then Float32.ofBits 0x7FC00000
  else if x == 0 then negativeInfinity
  else if x == infinity then infinity
  else if x == 1 then 0
  else
    let bits := x.toBits
    -- Subnormal numbers are scaled up by `2 ^ 23` first.
    let bits := if bits < 0x00800000 then (x * 8388608).toBits - 0x0B800000 else bits
    narrow (logarithmOfBits bits)

end SlotServe.Binary32
