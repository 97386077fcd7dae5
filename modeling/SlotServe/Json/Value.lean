import SlotServe.Decimal.Numeral
/-! JSON values. Members of an object keep their order. -/
namespace SlotServe

inductive Json
  | null
  | bool (value : Bool)
  | number (value : Decimal.Numeral)
  | string (value : String)
  | array (items : List Json)
  | object (members : List (String × Json))

namespace Json

def ofNat (number : Nat) : Json := .number ⟨false, number, 0, true⟩

def member? (json : Json) (name : String) : Option Json :=
  match json with
  | .object members => members.reverse.lookup name
  | _ => none

def string? : Json → Option String
  | .string value => some value
  | _ => none

def bool? : Json → Option Bool
  | .bool value => some value
  | _ => none

def array? : Json → Option (List Json)
  | .array items => some items
  | _ => none

def int? : Json → Option Int
  | .number numeral => numeral.toInt?
  | _ => none

def nat? (json : Json) : Option Nat :=
  match json.int? with
  | some whole => if whole < 0 then none else some whole.toNat
  | none => none

def get? (json : Json) (name : String) : Option Json :=
  match json.member? name with
  | some .null => none
  | found => found

def textAt? (json : Json) (name : String) : Option String := (json.get? name).bind string?

end Json

end SlotServe
