import SlotServe.Toml.Table
import SlotServe.Toml.Token
/-! A TOML document as a list of statements: headers that open a table, and keys with their values.
Values are read here too; an inline table is assembled at once, since nothing may extend it. -/
namespace SlotServe.Toml

inductive Statement
  /-- Opens the table at a path. -/
  | header (path : List String)
  /-- Opens a new table in the list of tables at a path. -/
  | itemHeader (path : List String)
  | assign (path : List String) (value : Toml)

def readScalar (text : List Char) : Option (Toml × List Char) :=
  match text with
  | '\x22' :: '\x22' :: '\x22' :: rest =>
    (readQuoted true false [] (dropBreak rest)).map fun found => (.string found.1, found.2)
  | '\x22' :: rest => (readQuoted false false [] rest).map fun found => (.string found.1, found.2)
  | '\x27' :: '\x27' :: '\x27' :: rest =>
    (readLiteral true [] (dropBreak rest)).map fun found => (.string found.1, found.2)
  | '\x27' :: rest => (readLiteral false [] rest).map fun found => (.string found.1, found.2)
  | 't' :: 'r' :: 'u' :: 'e' :: rest => some (.bool true, rest)
  | 'f' :: 'a' :: 'l' :: 's' :: 'e' :: rest => some (.bool false, rest)
  | _ =>
    match readMoment text with
    | some rest => some (.moment, rest)
    | none => readNumber text

mutual

def readValue (steps depth : Nat) (text : List Char) : Option (Toml × List Char) :=
  match steps, depth, text with
  | 0, _, _ => none
  | _, 0, '[' :: _ | _, 0, '\x7b' :: _ => none
  | steps + 1, depth + 1, '[' :: rest =>
    match skipLines false rest with
    | ']' :: rest => some (.array [], rest)
    | rest => (readItems steps depth rest).map fun found => (.array found.1, found.2)
  | steps + 1, depth + 1, '\x7b' :: rest =>
    match skipBlank rest with
    | '\x7d' :: rest => some (.table [], rest)
    | rest => do
      let (pairs, rest) ← readPairs steps depth rest
      return (.table (← inlineTable pairs), rest)
  | _, _, text => readScalar text

def readItems (steps depth : Nat) (text : List Char) : Option (List Toml × List Char) :=
  match steps with
  | 0 => none
  | steps + 1 => do
    let (item, rest) ← readValue steps depth text
    match skipLines false rest with
    | ']' :: rest => return ([item], rest)
    | ',' :: rest =>
      match skipLines false rest with
      | ']' :: rest => return ([item], rest)
      | rest => do
        let (items, rest) ← readItems steps depth rest
        return (item :: items, rest)
    | _ => none

def readPairs (steps depth : Nat) (text : List Char) : Option (List (List String × Toml) × List Char) :=
  match steps with
  | 0 => none
  | steps + 1 => do
    let (path, rest) ← readKey (depthLimit - 1) text
    let rest ← expect '=' rest
    let (value, rest) ← readValue steps depth (skipBlank rest)
    match skipBlank rest with
    | '\x7d' :: rest => return ([(path, value)], rest)
    | ',' :: rest => do
      let (pairs, rest) ← readPairs steps depth rest
      return ((path, value) :: pairs, rest)
    | _ => none

end

def readStatement (steps : Nat) (text : List Char) : Option (Statement × List Char) := do
  match text with
  | '[' :: '[' :: rest =>
    let (path, rest) ← readKey (depthLimit - 1) rest
    let rest ← endLine (← expect ']' (← expect ']' rest))
    return (.itemHeader path, rest)
  | '[' :: rest =>
    let (path, rest) ← readKey (depthLimit - 1) rest
    let rest ← endLine (← expect ']' rest)
    return (.header path, rest)
  | _ =>
    let (path, rest) ← readKey (depthLimit - 1) text
    let (value, rest) ← readValue steps (depthLimit - 1) (skipBlank (← expect '=' rest))
    return (.assign path value, ← endLine rest)

def readStatements (bound : Nat) : Nat → List Char → Option (List Statement)
  | 0, _ => none
  | steps + 1, text =>
    match skipLines false text with
    | [] => some []
    | text => do
      let (statement, rest) ← readStatement bound text
      return statement :: (← readStatements bound steps rest)

def statements (text : String) : Option (List Statement) :=
  let characters := match text.toList with
    | '\ufeff' :: rest => rest
    | characters => characters
  let bound := 2 * characters.length + 2
  readStatements bound bound characters

structure Draft where
  members : Members
  current : List String

def Draft.empty : Draft := ⟨[], []⟩

def Draft.add (draft : Draft) : Statement → Option Draft
  | .header path => do return ⟨← openTable path draft.members, path⟩
  | .itemHeader path => do return ⟨← openItem path draft.members, path⟩
  | .assign path value => do
    let members ← within false (fun _ => assign path value) draft.current .header draft.members
    return { draft with members }

def parse? (text : String) : Option (List (String × Toml)) := do
  let draft ← (← statements text).foldlM Draft.add .empty
  return finished draft.members

end SlotServe.Toml
