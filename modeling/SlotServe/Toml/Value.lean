import SlotServe.Decimal.Numeral
import SlotServe.Size
/-! TOML values, the members of a table in their order, and typed readings of them. A structure is read from
a table by the names of its fields: a name that is missing leaves its default, and other names are passed
over. -/
namespace SlotServe

inductive Real
  | finite (numeral : Decimal.Numeral)
  | infinite (negative : Bool)
  | notNumber
  deriving DecidableEq

def Real.toFloat32 : Real → Float32
  | .finite numeral => numeral.toFloat32
  | .infinite negative => Binary32.ofMagnitude negative Binary32.infinityBits
  | .notNumber => Float32.ofBits 0x7FC00000

inductive Toml
  | string (value : String)
  | integer (value : Int)
  | real (value : Real)
  | bool (value : Bool)
  /-- A date, a time or both; only its presence is kept. -/
  | moment
  | array (items : List Toml)
  | table (members : List (String × Toml))

namespace Toml

def fitsInteger (value : Int) : Bool := -0x8000000000000000 ≤ value && value < 0x8000000000000000

def fields? (names : List String) : Toml → Option (List (String × Toml))
  | .table members => some members
  | .array items => some (names.zip items)
  | .moment => some []
  | _ => none

def field {α : Type} (members : List (String × Toml)) (name : String) (default : α)
    (read : Toml → Option α) : Option α :=
  match members.lookup name with
  | none => some default
  | some value => read value

def natBelow (limit : Nat) : Toml → Option Nat
  | .integer value => if 0 ≤ value ∧ value < limit then some value.toNat else none
  | _ => none

def size? : Toml → Option Nat := natBelow Size.limit

def number32? : Toml → Option Nat := natBelow 0x100000000

def bool? : Toml → Option Bool
  | .bool value => some value
  | _ => none

def string? : Toml → Option String
  | .string value => some value
  | _ => none

def float32? : Toml → Option Float32
  | .integer value => some (Binary32.ofInt value)
  | .real value => some value.toFloat32
  | _ => none

end Toml

end SlotServe
