import SlotServe.Decimal.Shortest
import SlotServe.Decimal.Numeral
import SlotServe.Toml.Value
/-! Writing of TOML: lines of keys and values, and under each header the lines of one table. Keys are
bare. Texts stand in the first of four kinds of quotes that can hold them, plain ones first, so that
escapes are written only when no kind does without them. -/
namespace SlotServe.Toml

def longestRun (mark : Char) (run : Nat) : List Char → Nat
  | [] => run
  | c :: rest =>
    if c = mark then longestRun mark (run + 1) rest else max run (longestRun mark 0 rest)

def isControl (c : Char) : Bool := (c.toNat < 32 && c ≠ '\t' && c ≠ '\n') || c.toNat = 127

inductive Quotes
  | plain | literal | long | longLiteral
  deriving DecidableEq

def quotesFor (text : List Char) : Quotes :=
  let broken := text.contains '\n'
  let control := text.any isControl
  let backslash := text.contains '\x5c'
  let doubles := longestRun '\x22' 0 text
  let singles := longestRun '\x27' 0 text
  if !control && !backslash && doubles = 0 && !broken then .plain
  else if !control && singles = 0 && !broken then .literal
  else if !control && !backslash && doubles ≤ 2 then .long
  else if !control && singles ≤ 2 then .longLiteral
  else if broken then .long
  else .plain

def escapedChar (long : Bool) (c : Char) : List Char :=
  if c = '\x08' then ['\x5c', 'b']
  else if c = '\t' then ['\x5c', 't']
  else if c = '\n' then if long then ['\n'] else ['\x5c', 'n']
  else if c = '\x0c' then ['\x5c', 'f']
  else if c = '\r' then ['\x5c', 'r']
  else if c = '\x5c' then ['\x5c', '\x5c']
  else if c.toNat < 32 || c.toNat = 127 then
    '\x5c' :: 'u' :: (Text.hexDigits 4 c.toNat).map Char.toUpper
  else [c]

/-- A text between quotes that know escapes. Long quotes let two double quotes in a row stand, `run`
of them being right before. -/
def escaped (long : Bool) (run : Nat) : List Char → List Char
  | [] => []
  | c :: rest =>
    if c = '\x22' then
      if long && run < 2 then c :: escaped long (run + 1) rest
      else '\x5c' :: c :: escaped long 0 rest
    else escapedChar long c ++ escaped long 0 rest

def quoted (text : List Char) : List Char :=
  let line := if text.contains '\n' then ['\n'] else []
  match quotesFor text with
  | .plain => '\x22' :: escaped false 0 text ++ ['\x22']
  | .literal => '\x27' :: text ++ ['\x27']
  | .long =>
    let marks := ['\x22', '\x22', '\x22']
    marks ++ line ++ escaped true 0 text ++ marks
  | .longLiteral =>
    let marks := ['\x27', '\x27', '\x27']
    marks ++ line ++ text ++ marks

/-- Quotes in a row are counted in one byte. -/
def isCountable (text : List Char) : Bool :=
  longestRun '\x22' 0 text < 256 && longestRun '\x27' 0 text < 256

def realText (x : Float32) : String :=
  let sign := if Binary32.isNegative x then "-" else ""
  if Binary32.isNotNumber x then "nan"
  else if Binary32.isFinite x then
    sign ++ Decimal.positional (Decimal.shortest (Binary32.magnitude x))
  else sign ++ "inf"

inductive Entry
  | string (value : String)
  | integer (value : Int)
  | real (value : Float32)
  | bool (value : Bool)

def Entry.text? : Entry → Option String
  | .string value => some (String.ofList (quoted value.toList))
  | .integer value => if fitsInteger value then some (toString value) else none
  | .real value => some (realText value)
  | .bool value => some (if value then "true" else "false")

structure Section where
  path : List String
  entries : List (String × Entry)

def Section.header (part : Section) : String :=
  if part.path.isEmpty then "" else "[" ++ ".".intercalate part.path ++ "]\n"

def Section.text? (part : Section) : Option String := do
  let lines ← part.entries.mapM fun entry => do
    return entry.1 ++ " = " ++ (← entry.2.text?) ++ "\n"
  return part.header ++ String.join lines

def write? (sections : List Section) : Option String := do
  return "\n".intercalate (← sections.mapM Section.text?)

def Entry.isCountable : Entry → Bool
  | .string value => Toml.isCountable value.toList
  | _ => true

def Section.isCountable (part : Section) : Bool := part.entries.all fun entry => entry.2.isCountable

end SlotServe.Toml
