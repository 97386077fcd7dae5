import SlotServe.Decimal.Numeral
import SlotServe.Toml.Value
/-! The parts of a TOML line: blanks and comments, quoted text, keys, numbers and moments. Each reader
takes its part from the front of a text and answers what is left. -/
namespace SlotServe.Toml

open Decimal (isDigit)
open Text (hexValue? hexNumber?)

def isBlank (c : Char) : Bool := c = ' ' || c = '\t'

def skipBlank (text : List Char) : List Char := text.dropWhile isBlank

def isPlain (c : Char) : Bool := c = '\t' || (32 ≤ c.toNat && c.toNat ≠ 127)

def endLine (text : List Char) : Option (List Char) :=
  let text := match skipBlank text with
    | '#' :: rest => rest.dropWhile isPlain
    | rest => rest
  match text with
  | [] => some []
  | '\n' :: rest | '\r' :: '\n' :: rest => some rest
  | _ => none

def skipLines (inComment : Bool) : List Char → List Char
  | '\n' :: rest | '\r' :: '\n' :: rest => skipLines false rest
  | c :: rest =>
    if inComment then if isPlain c then skipLines true rest else c :: rest
    else if c = '#' then skipLines true rest
    else if isBlank c then skipLines false rest
    else c :: rest
  | [] => []

def escaped? : Char → Option Char
  | 'b' => some '\x08'
  | 't' => some '\t'
  | 'n' => some '\n'
  | 'f' => some '\x0c'
  | 'r' => some '\r'
  | '\x22' => some '\x22'
  | '\x5c' => some '\x5c'
  | _ => none

def scalar? (code : Nat) : Option Char :=
  if code.isValidChar then some (Char.ofNat code) else none

def blankLine (text : List Char) : Bool :=
  match skipBlank text with
  | '\n' :: _ | '\r' :: '\n' :: _ => true
  | _ => false

/-- The rest of a text after its opening quotes, `read` being the characters so far, the last one in
front. With `long` the text ends at three quotes and may span lines; one or two quotes right before
the end belong to it, and a backslash at the end of a line hides the end and all blanks and line ends
after it, which are `hidden`. -/
def readQuoted (long hidden : Bool) (read : List Char) : List Char → Option (String × List Char)
  | [] => none
  | '\n' :: rest | '\r' :: '\n' :: rest =>
    if hidden then readQuoted long true read rest
    else if long then readQuoted long false ('\n' :: read) rest
    else none
  | '\x22' :: '\x22' :: '\x22' :: rest =>
    if long then
      match rest with
      -- Of up to five quotes in a row the last three end the text.
      | '\x22' :: '\x22' :: rest => some (String.ofList ('\x22' :: '\x22' :: read).reverse, rest)
      | '\x22' :: rest => some (String.ofList ('\x22' :: read).reverse, rest)
      | rest => some (String.ofList read.reverse, rest)
    else some (String.ofList read.reverse, '\x22' :: '\x22' :: rest)
  | '\x22' :: rest =>
    if long then readQuoted long false ('\x22' :: read) rest
    else some (String.ofList read.reverse, rest)
  | '\x5c' :: 'u' :: d1 :: d2 :: d3 :: d4 :: rest =>
    match (hexNumber? [d1, d2, d3, d4]).bind scalar? with
    | some c => readQuoted long false (c :: read) rest
    | none => none
  | '\x5c' :: 'U' :: d1 :: d2 :: d3 :: d4 :: d5 :: d6 :: d7 :: d8 :: rest =>
    match (hexNumber? [d1, d2, d3, d4, d5, d6, d7, d8]).bind scalar? with
    | some c => readQuoted long false (c :: read) rest
    | none => none
  | '\x5c' :: letter :: rest =>
    match escaped? letter with
    | some c => readQuoted long false (c :: read) rest
    | none =>
      if long && blankLine (letter :: rest) then readQuoted long true read (letter :: rest) else none
  | c :: rest =>
    if hidden && isBlank c then readQuoted long true read rest
    else if isPlain c then readQuoted long false (c :: read) rest
    else none

def readLiteral (long : Bool) (read : List Char) : List Char → Option (String × List Char)
  | [] => none
  | '\n' :: rest | '\r' :: '\n' :: rest =>
    if long then readLiteral long ('\n' :: read) rest else none
  | '\x27' :: '\x27' :: '\x27' :: rest =>
    if long then
      match rest with
      | '\x27' :: '\x27' :: rest => some (String.ofList ('\x27' :: '\x27' :: read).reverse, rest)
      | '\x27' :: rest => some (String.ofList ('\x27' :: read).reverse, rest)
      | rest => some (String.ofList read.reverse, rest)
    else some (String.ofList read.reverse, '\x27' :: '\x27' :: rest)
  | '\x27' :: rest =>
    if long then readLiteral long ('\x27' :: read) rest
    else some (String.ofList read.reverse, rest)
  | c :: rest => if isPlain c then readLiteral long (c :: read) rest else none

def dropBreak : List Char → List Char
  | '\n' :: rest | '\r' :: '\n' :: rest => rest
  | text => text

def isBare (c : Char) : Bool := c.isAlphanum || c = '_' || c = '-'

def readKeyPart : List Char → Option (String × List Char)
  | '\x22' :: rest => readQuoted false false [] rest
  | '\x27' :: rest => readLiteral false [] rest
  | text =>
    let bare := text.takeWhile isBare
    if bare.isEmpty then none else some (String.ofList bare, text.dropWhile isBare)

def readKey : Nat → List Char → Option (List String × List Char)
  | 0, _ => none
  | limit + 1, text => do
    let (part, rest) ← readKeyPart (skipBlank text)
    match skipBlank rest with
    | '.' :: rest => do
      let (parts, rest) ← readKey limit rest
      return (part :: parts, rest)
    | rest => return ([part], rest)

def depthLimit : Nat := 80

def moreDigits (isDigit : Char → Bool) : List Char → Option (List Char × List Char)
  | [] => some ([], [])
  | c :: rest =>
    if isDigit c then do
      let (digits, rest) ← moreDigits isDigit rest
      return (c :: digits, rest)
    -- A mark stands alone and between two digits.
    else if c = '_' then
      match rest with
      | [] => none
      | d :: more =>
        if isDigit d then do
          let (digits, rest) ← moreDigits isDigit more
          return (d :: digits, rest)
        else none
    else some ([], c :: rest)

def readDigits (isDigit : Char → Bool) : List Char → Option (List Char × List Char)
  | [] => none
  | c :: rest => if isDigit c then moreDigits isDigit (c :: rest) else none

def readBased (base : Nat) (isDigit : Char → Bool) (text : List Char) : Option (Toml × List Char) := do
  let (digits, rest) ← readDigits isDigit text
  let number := digits.foldl (fun number digit => number * base + (hexValue? digit).getD 0) 0
  if fitsInteger number then return (.integer number, rest) else none

def readWhole : List Char → Option (List Char × List Char)
  | '0' :: rest => some (['0'], rest)
  | text => readDigits isDigit text

def readPower (text : List Char) : Option (Int × List Char) := do
  let (negative, text) := match text with
    | '-' :: rest => (true, rest)
    | '+' :: rest => (false, rest)
    | _ => (false, text)
  let (digits, rest) ← readDigits isDigit text
  let power : Int := Decimal.value digits
  return (if negative then -power else power, rest)

/-- A number after its sign. A written number must not round to positive infinity. -/
def readUnsigned (negative : Bool) (text : List Char) : Option (Toml × List Char) := do
  match text with
  | 'i' :: 'n' :: 'f' :: rest => return (.real (.infinite negative), rest)
  | 'n' :: 'a' :: 'n' :: rest => return (.real .notNumber, rest)
  | _ =>
    let (whole, text) ← readWhole text
    let (fraction, text, plain) ← match text with
      | '.' :: rest => do
        let (fraction, rest) ← readDigits isDigit rest
        pure (fraction, rest, false)
      | _ => pure ([], text, true)
    let (power, text, plain) ← match text with
      | 'e' :: rest | 'E' :: rest => do
        let (power, rest) ← readPower rest
        pure (power, rest, false)
      | _ => pure (0, text, plain)
    let numeral : Decimal.Numeral :=
      ⟨negative, Decimal.value (whole ++ fraction), power - fraction.length, plain⟩
    match numeral.toInt? with
    | some number => if fitsInteger number then return (.integer number, text) else none
    | none =>
      if numeral.toDouble?.isNone && !negative then none
      else return (.real (.finite numeral), text)

def isOctal (c : Char) : Bool := '0' ≤ c && c ≤ '7'

def isBinary (c : Char) : Bool := c = '0' || c = '1'

def readNumber : List Char → Option (Toml × List Char)
  | '0' :: 'x' :: rest => readBased 16 (fun c => (hexValue? c).isSome) rest
  | '0' :: 'o' :: rest => readBased 8 isOctal rest
  | '0' :: 'b' :: rest => readBased 2 isBinary rest
  | '+' :: rest => readUnsigned false rest
  | '-' :: rest => readUnsigned true rest
  | text => readUnsigned false text

def readField (count least most : Nat) (text : List Char) : Option (Nat × List Char) :=
  let digits := text.take count
  let number := Decimal.value digits
  if digits.length = count ∧ digits.all isDigit ∧ least ≤ number ∧ number ≤ most then
    some (number, text.drop count)
  else none

def expect (c : Char) : List Char → Option (List Char)
  | [] => none
  | d :: rest => if c = d then some rest else none

def monthLength (year month : Nat) : Nat :=
  if month = 2 then if year % 4 = 0 ∧ (year % 100 ≠ 0 ∨ year % 400 = 0) then 29 else 28
  else if month = 4 ∨ month = 6 ∨ month = 9 ∨ month = 11 then 30
  else 31

def readDate (text : List Char) : Option (List Char) := do
  let (year, text) ← readField 4 0 9999 text
  let (month, text) ← readField 2 1 12 (← expect '-' text)
  let (_, text) ← readField 2 1 (monthLength year month) (← expect '-' text)
  return text

def readClock (text : List Char) : Option (List Char) := do
  let (_, text) ← readField 2 0 23 text
  let (_, text) ← readField 2 0 59 (← expect ':' text)
  let (_, text) ← readField 2 0 60 (← expect ':' text)
  match text with
  | '.' :: rest =>
    guard ((rest.head?.map isDigit).getD false)
    return rest.dropWhile isDigit
  | _ => return text

def readOffset (text : List Char) : Option (List Char) := do
  match text with
  | 'Z' :: rest | 'z' :: rest => return rest
  | '+' :: rest | '-' :: rest =>
    let (_, rest) ← readField 2 0 23 rest
    let (_, rest) ← readField 2 0 59 (← expect ':' rest)
    return rest
  | _ => return text

/-- A date, a time, or both. A blank after a date counts only if a time follows. -/
def readMoment (text : List Char) : Option (List Char) :=
  match readDate text with
  | none => readClock text
  | some rest =>
    match rest with
    | 'T' :: more | 't' :: more => (readClock more).bind readOffset
    | ' ' :: more =>
      match readClock more with
      | some rest => readOffset rest
      | none => some rest
    | _ => some rest

end SlotServe.Toml
