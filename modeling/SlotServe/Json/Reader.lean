import SlotServe.Json.Number
import SlotServe.Json.Value
import SlotServe.Decimal.Numeral
/-! Reading of JSON text. Arrays and objects may be nested in each other 127 deep. -/
namespace SlotServe.Json

open Text (hexNumber?)

def isBlank (c : Char) : Bool := c = ' ' || c = '\t' || c = '\n' || c = '\r'

def skipBlank (text : List Char) : List Char := text.dropWhile isBlank

def isHighSurrogate (unit : Nat) : Bool := 0xD800 ≤ unit && unit < 0xDC00

def isLowSurrogate (unit : Nat) : Bool := 0xDC00 ≤ unit && unit < 0xE000

def escaped? : Char → Option Char
  | 'b' => some '\x08'
  | 'f' => some '\x0c'
  | 'n' => some '\n'
  | 'r' => some '\r'
  | 't' => some '\t'
  | '/' => some '/'
  | '\x5c' => some '\x5c'
  | '\x22' => some '\x22'
  | _ => none

def readString (read : List Char) : List Char → Option (String × List Char)
  | [] => none
  | '\x22' :: rest => some (String.ofList read.reverse, rest)
  | '\x5c' :: 'u' :: a :: b :: c :: d :: rest =>
    match hexNumber? [a, b, c, d] with
    | none => none
    | some unit =>
      if isLowSurrogate unit then none
      else if isHighSurrogate unit then
        -- A character past the first plane is written as two units.
        match rest with
        | '\x5c' :: 'u' :: e :: f :: g :: h :: rest =>
          match hexNumber? [e, f, g, h] with
          | none => none
          | some low =>
            if isLowSurrogate low then
              readString (Char.ofNat (0x10000 + (unit - 0xD800) * 0x400 + (low - 0xDC00)) :: read)
                rest
            else none
        | _ => none
      else readString (Char.ofNat unit :: read) rest
  | '\x5c' :: letter :: rest =>
    match escaped? letter with
    | some c => readString (c :: read) rest
    | none => none
  | c :: rest => if c.toNat < 32 then none else readString (c :: read) rest

mutual

def readValue (steps depth : Nat) (text : List Char) : Option (Json × List Char) :=
  match steps with
  | 0 => none
  | steps + 1 =>
    match skipBlank text with
    | 'n' :: 'u' :: 'l' :: 'l' :: rest => some (.null, rest)
    | 't' :: 'r' :: 'u' :: 'e' :: rest => some (.bool true, rest)
    | 'f' :: 'a' :: 'l' :: 's' :: 'e' :: rest => some (.bool false, rest)
    | '\x22' :: rest => (readString [] rest).map fun found => (.string found.1, found.2)
    | '[' :: rest =>
      match depth, skipBlank rest with
      | 0, _ => none
      | _ + 1, ']' :: rest => some (.array [], rest)
      | depth + 1, rest => (readItems steps depth rest).map fun found => (.array found.1, found.2)
    | '\x7b' :: rest =>
      match depth, skipBlank rest with
      | 0, _ => none
      | _ + 1, '\x7d' :: rest => some (.object [], rest)
      | depth + 1, rest => (readMembers steps depth rest).map fun found => (.object found.1, found.2)
    | text => (readNumber text).map fun found => (.number found.1, found.2)

def readItems (steps depth : Nat) (text : List Char) : Option (List Json × List Char) :=
  match steps with
  | 0 => none
  | steps + 1 => do
    let (item, text) ← readValue steps depth text
    match skipBlank text with
    | ',' :: rest => do
      let (items, rest) ← readItems steps depth rest
      return (item :: items, rest)
    | ']' :: rest => return ([item], rest)
    | _ => none

def readMembers (steps depth : Nat) (text : List Char) :
    Option (List (String × Json) × List Char) :=
  match steps with
  | 0 => none
  | steps + 1 =>
    match skipBlank text with
    | '\x22' :: rest => do
      let (name, rest) ← readString [] rest
      match skipBlank rest with
      | ':' :: rest => do
        let (value, rest) ← readValue steps depth rest
        match skipBlank rest with
        | ',' :: rest => do
          let (members, rest) ← readMembers steps depth rest
          return ((name, value) :: members, rest)
        | '\x7d' :: rest => return ([(name, value)], rest)
        | _ => none
      | _ => none
    | _ => none

end

def parse? (text : String) : Option Json := do
  let characters := text.toList
  let (value, rest) ← readValue (2 * characters.length + 2) 127 characters
  guard (skipBlank rest).isEmpty
  return value

end SlotServe.Json
