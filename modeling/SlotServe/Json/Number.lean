import SlotServe.Decimal.Numeral
import SlotServe.Size
/-! Numbers in JSON text. A whole number is a word of 64 bits, with a sign or without; every other
number is a 64-bit real, of which as many leading digits as a word holds are read. Reals past the
largest one are refused. -/
namespace SlotServe.Json

open Decimal (Numeral isDigit digitValue)

def fillWord (word : Nat) : List Char → Nat × Nat
  | [] => (word, 0)
  | digit :: rest =>
    let next := word * 10 + digitValue digit
    if next < Size.limit then fillWord next rest else (word, rest.length + 1)

def roundWhole (number : Nat) : Nat :=
  let (num, den) := (Binary.double.round number 1).fraction
  num / den

/-- Whether a word times a power of ten is past the largest real. Word and power are rounded to reals
before they are multiplied. -/
def exceedsReal (word : Nat) (power : Int) : Bool :=
  if word = 0 || power < 0 then false
  else if 308 < power then true
  else
    let product := roundWhole word * roundWhole (Nat.pow 10 power.toNat)
    (Binary.double.round product 1).exceedsDouble

def isWord (negative : Bool) (digits : Nat) : Bool :=
  -- A minus zero is a real number.
  if negative then 0 < digits && digits ≤ 0x8000000000000000 else digits < Size.limit

def readExponent (text : List Char) : Option (Int × List Char) :=
  let (negative, text) := match text with
    | '-' :: rest => (true, rest)
    | '+' :: rest => (false, rest)
    | _ => (false, text)
  let digits := text.takeWhile isDigit
  if digits.isEmpty then none
  else
    let number : Int := Decimal.value digits
    some (if negative then -number else number, text.dropWhile isDigit)

def readNumber (text : List Char) : Option (Numeral × List Char) := do
  let (negative, text) := match text with
    | '-' :: rest => (true, rest)
    | _ => (false, text)
  let whole := text.takeWhile isDigit
  guard (!whole.isEmpty && (whole.length = 1 || whole.head? ≠ some '0'))
  let text := text.dropWhile isDigit
  let (fraction, text, plain) ← match text with
    | '.' :: rest =>
      let fraction := rest.takeWhile isDigit
      if fraction.isEmpty then none else some (fraction, rest.dropWhile isDigit, false)
    | _ => some ([], text, true)
  let (power, text, plain) ← match text with
    | 'e' :: rest | 'E' :: rest => (readExponent rest).map fun found => (found.1, found.2, false)
    | _ => some (0, text, plain)
  let digits := Decimal.value (whole ++ fraction)
  let isWhole := plain && isWord negative digits
  let (word, left) := fillWord 0 whole
  let (word, unread) := fillWord word fraction
  guard (isWhole || !exceedsReal word (power + left - (fraction.length - unread : Nat)))
  return (⟨negative, digits, power - fraction.length, isWhole⟩, text)

end SlotServe.Json
