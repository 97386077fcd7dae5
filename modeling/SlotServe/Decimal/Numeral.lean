import SlotServe.Binary32.Basic
/-! Numbers in text. A decimal numeral is a sign, the digits as one whole number, and a power of ten;
hexadecimal digits stand for a number of known length. -/
namespace SlotServe

namespace Decimal

open Binary (Scaled double)

def isDigit (c : Char) : Bool := '0' ≤ c && c ≤ '9'

def digitValue (c : Char) : Nat := c.toNat - '0'.toNat

def value (digits : List Char) : Nat :=
  digits.foldl (fun value digit => value * 10 + digitValue digit) 0

/-- A numeral for `digits * 10 ^ exponent`, negated when `negative`. It is `whole` when it was written
without fraction and power. -/
structure Numeral where
  negative : Bool
  digits : Nat
  exponent : Int
  whole : Bool
  deriving DecidableEq

def numDigits (number : Nat) : Nat := if number = 0 then 0 else number.repr.length

namespace Numeral

def fraction (numeral : Numeral) : Nat × Nat :=
  (numeral.digits * Nat.pow 10 numeral.exponent.toNat, Nat.pow 10 (-numeral.exponent).toNat)

def top (numeral : Numeral) : Int := (numDigits numeral.digits : Int) + numeral.exponent

/-- The nearest 64-bit magnitude; none if it is infinite. Zero, and numerals far beyond the largest
number or far below the smallest one, need no arithmetic. -/
def toDouble? (numeral : Numeral) : Option Scaled :=
  if numeral.digits = 0 then some ⟨0, double.lowest⟩
  else if 310 < numeral.top then none
  else if numeral.top < -330 then some ⟨0, double.lowest⟩
  else
    let (num, den) := numeral.fraction
    let rounded := double.round num den
    if rounded.exceedsDouble then none else some rounded

def toFloat32 (numeral : Numeral) : Float32 :=
  match numeral.toDouble? with
  | none => Binary32.ofMagnitude numeral.negative Binary32.infinityBits
  | some magnitude =>
    let (num, den) := magnitude.fraction
    Binary32.ofFraction numeral.negative num den

def toInt? (numeral : Numeral) : Option Int :=
  if numeral.whole then
    some (if numeral.negative then -(numeral.digits : Int) else numeral.digits)
  else none

end Numeral

end Decimal

namespace Text

def hexDigits : Nat → Nat → List Char
  | 0, _ => []
  | count + 1, number => hexDigits count (number / 16) ++ [Nat.digitChar (number % 16)]

def hexValue? (c : Char) : Option Nat :=
  if '0' ≤ c && c ≤ '9' then some (c.toNat - '0'.toNat)
  else if 'a' ≤ c && c ≤ 'f' then some (c.toNat - 'a'.toNat + 10)
  else if 'A' ≤ c && c ≤ 'F' then some (c.toNat - 'A'.toNat + 10)
  else none

def hexNumber? (digits : List Char) : Option Nat :=
  digits.foldlM (fun number digit => (hexValue? digit).map (number * 16 + ·)) 0

end Text

end SlotServe
