import SlotServe.Toml.Value
/-! Tables under construction. A table remembers what brought it about, because that decides how it
may still grow: a header may complete a table that only other headers implied, and dotted keys may
add only to what dotted keys began. -/
namespace SlotServe.Toml

inductive Origin
  /-- Opened by a header of its own, or an item of a list of tables. -/
  | header
  /-- Named on the way to another header. -/
  | implied
  /-- Named on the way to the last part of a dotted key. -/
  | dotted
  deriving DecidableEq

inductive Node
  | value (value : Toml)
  | table (origin : Origin) (members : List (String × Node))
  /-- A list of tables, the last of which is still open. -/
  | items (tables : List (List (String × Node)))

abbrev Members := List (String × Node)

def alter (name : String) (change : Option Node → Option Node) : Members → Option Members
  | [] => (change none).map fun node => [(name, node)]
  | member :: rest =>
    if member.1 = name then (change (some member.2)).map fun node => (name, node) :: rest
    else (alter name change rest).map (member :: ·)

def alterLast (change : Members → Option Members) : List Members → Option (List Members)
  | [] => none
  | [last] => (change last).map ([·])
  | first :: rest => (alterLast change rest).map (first :: ·)

/-- Change the table at a path. Tables that are missing on the way are made; a dotted path does not
lead through a table that has a header of its own. -/
def within (dotted : Bool) (change : Origin → Members → Option Members) :
    List String → Origin → Members → Option Members
  | [], origin, members => change origin members
  | name :: path, _, members =>
    let made := if dotted then Origin.dotted else .implied
    alter name (fun
      | none => (within dotted change path made []).map (.table made)
      | some (.value _) => none
      | some (.items tables) =>
        (alterLast (within dotted change path .header) tables).map .items
      | some (.table origin members) =>
        if dotted && origin = .header then none
        else (within dotted change path origin members).map (.table origin)) members

def addMember (name : String) (node : Node) : Members → Option Members :=
  alter name fun
    | none => some node
    | some _ => none

def splitLast : List String → Option (List String × String)
  | [] => none
  | [name] => some ([], name)
  | name :: path => (splitLast path).map fun split => (name :: split.1, split.2)

def assign (path : List String) (value : Toml) (members : Members) : Option Members := do
  let (parents, name) ← splitLast path
  within true (fun origin members =>
    -- A dotted key may add only to a table that dotted keys began.
    if parents.isEmpty || origin = .dotted then addMember name (.value value) members else none)
    parents .header members

def openTable (path : List String) (members : Members) : Option Members := do
  let (parents, name) ← splitLast path
  within false (fun _ => alter name fun
    | none => some (.table .header [])
    -- A table that was only named on the way may still get its own header.
    | some (.table .implied members) => some (.table .header members)
    | some _ => none) parents .header members

def openItem (path : List String) (members : Members) : Option Members := do
  let (parents, name) ← splitLast path
  within false (fun _ => alter name fun
    | none => some (.items [[]])
    | some (.items tables) => some (.items (tables ++ [[]]))
    | some _ => none) parents .header members

mutual

def Node.toToml : Node → Toml
  | .value value => value
  | .table _ members => .table (finished members)
  | .items tables => .array (finishedAll tables)

def finished : List (String × Node) → List (String × Toml)
  | [] => []
  | member :: rest => finishedMember member :: finished rest

def finishedMember : String × Node → String × Toml
  | (name, node) => (name, node.toToml)

def finishedAll : List (List (String × Node)) → List Toml
  | [] => []
  | members :: rest => .table (finished members) :: finishedAll rest

end

def inlineTable (pairs : List (List String × Toml)) : Option (List (String × Toml)) :=
  (pairs.foldlM (fun members pair => assign pair.1 pair.2 members) []).map finished

end SlotServe.Toml
