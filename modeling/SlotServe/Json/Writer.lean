import SlotServe.Json.Value
import SlotServe.Decimal.Numeral
/-! Writing of JSON text: with one member or item a line, and on a single line without blanks. -/
namespace SlotServe.Json

def quotedChar (c : Char) : String :=
  if c = '\x22' then "\\\""
  else if c = '\x5c' then "\\\\"
  else if c = '\n' then "\\n"
  else if c = '\r' then "\\r"
  else if c = '\t' then "\\t"
  else if c = '\x08' then "\\b"
  else if c = '\x0c' then "\\f"
  else if c.toNat < 32 then "\\u" ++ String.ofList (Text.hexDigits 4 c.toNat)
  else String.singleton c

def quoted (text : String) : String :=
  "\"" ++ String.join (text.toList.map quotedChar) ++ "\""

def numeralText (numeral : Decimal.Numeral) : String :=
  let sign := if numeral.negative then "-" else ""
  let power := if numeral.exponent = 0 then "" else "e" ++ toString numeral.exponent
  sign ++ toString numeral.digits ++ power

def indent (depth : Nat) : String := String.ofList (List.replicate (2 * depth) ' ')

def block (depth : Nat) (left right : String) : List String → String
  | [] => left ++ right
  | lines => left ++ "\n" ++ ",\n".intercalate lines ++ "\n" ++ indent depth ++ right

mutual

def render (depth : Nat) : Json → String
  | .null => "null"
  | .bool value => if value then "true" else "false"
  | .number numeral => numeralText numeral
  | .string value => quoted value
  | .array items => block depth "[" "]" (renderItems (depth + 1) items)
  | .object members => block depth "\x7b" "\x7d" (renderMembers (depth + 1) members)

def renderItems (depth : Nat) : List Json → List String
  | [] => []
  | item :: rest => (indent depth ++ render depth item) :: renderItems depth rest

def renderMembers (depth : Nat) : List (String × Json) → List String
  | [] => []
  | member :: rest => renderMember depth member :: renderMembers depth rest

def renderMember (depth : Nat) : String × Json → String
  | (name, value) => indent depth ++ quoted name ++ ": " ++ render depth value

end

def text (json : Json) : String := render 0 json

mutual

def line : Json → String
  | .null => "null"
  | .bool value => if value then "true" else "false"
  | .number numeral => numeralText numeral
  | .string value => quoted value
  | .array items => "[" ++ ",".intercalate (lineItems items) ++ "]"
  | .object members => "\x7b" ++ ",".intercalate (lineMembers members) ++ "\x7d"

def lineItems : List Json → List String
  | [] => []
  | item :: rest => line item :: lineItems rest

def lineMembers : List (String × Json) → List String
  | [] => []
  | member :: rest => lineMember member :: lineMembers rest

def lineMember : String × Json → String
  | (name, value) => quoted name ++ ":" ++ line value

end

end SlotServe.Json
