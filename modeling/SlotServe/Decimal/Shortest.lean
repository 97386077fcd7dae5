import SlotServe.Decimal.Numeral
/-! The shortest decimal that reads back as a given number. For each count of digits the two
neighbours of the number on the grid of that count are tried, and the first count with a neighbour
that reads back wins; of two such neighbours the nearer one, half way the upper one. -/
namespace SlotServe.Decimal

open Binary (Scaled double)

def placesOf (num den : Nat) : Int :=
  if den ≤ num then (num / den).repr.length
  else 1 - ((((den + num - 1) / num) - 1).repr.length : Int)

def onGrid (units : Nat) (exponent : Int) : Numeral := ⟨false, units, exponent, false⟩

def neighbours (num den : Nat) (exponent : Int) : List Numeral :=
  let num := num * Nat.pow 10 (-exponent).toNat
  let den := den * Nat.pow 10 exponent.toNat
  let floor := num / den
  let near := [onGrid floor exponent, onGrid (floor + 1) exponent]
  if den ≤ 2 * (num % den) then near.reverse else near

def exact (scaled : Scaled) : Numeral :=
  if 0 ≤ scaled.exponent then onGrid (scaled.significand * Nat.pow 2 scaled.exponent.toNat) 0
  else onGrid (scaled.significand * Nat.pow 5 (-scaled.exponent).toNat) scaled.exponent

def readsAs (num den : Nat) (numeral : Numeral) : Bool :=
  match numeral.toDouble? with
  | none => false
  | some found => found.fraction.1 * den = num * found.fraction.2

def shortest (scaled : Scaled) : Numeral :=
  let (num, den) := scaled.fraction
  let places := placesOf num den
  -- Seventeen digits are enough for any number of 64 bits.
  let tries := (List.range' 1 17).flatMap fun count : Nat => neighbours num den (places - count)
  (tries.find? (readsAs num den)).getD (exact scaled)

def paddedDigits (width number : Nat) : List Char :=
  let digits := number.repr.toList
  List.replicate (width - digits.length) '0' ++ digits

def positional (numeral : Numeral) : String :=
  if 0 ≤ numeral.exponent then
    toString (numeral.digits * Nat.pow 10 numeral.exponent.toNat) ++ ".0"
  else
    let places := (-numeral.exponent).toNat
    toString (numeral.digits / Nat.pow 10 places) ++ "." ++
      String.ofList (paddedDigits places (numeral.digits % Nat.pow 10 places))

end SlotServe.Decimal
