import SlotServe.Fault
import SlotServe.Size
/-! The blocks that one decode row holds, in logical order, and how many tokens they store. -/
namespace SlotServe

structure BlockTable where
  blocks : List Nat
  numTokens : Nat
  blockSize : Nat
  deriving DecidableEq

namespace BlockTable

def ofBlockSize (blockSize : Nat) : BlockTable := ⟨[], 0, max blockSize 1⟩

def blank : BlockTable := ⟨[], 0, 0⟩

def isEmpty (table : BlockTable) : Bool := table.blocks.isEmpty

def blocksNeeded (table : BlockTable) (count : Nat) : Except Defect Nat :=
  if count = 0 then .ok 0
  else
    match Size.add? table.numTokens count with
    | none => .error .overflow
    | some total =>
      if table.blockSize = 0 then .error .divisionByZero
      else .ok (Size.groups total table.blockSize - table.blocks.length)

/-- Enter fresh blocks and the tokens that they now store. A defect leaves the table as far as it
had come: the blocks stay, and so does the count once it is raised. -/
def extend (blocks : List Nat) (count : Nat) : EStateM Defect BlockTable Unit := fun table =>
  let held := { table with blocks := table.blocks ++ blocks }
  match Size.add? table.numTokens count with
  | none => .error .overflow held
  | some total =>
    let grown := { held with numTokens := total }
    match Size.mul? grown.blocks.length grown.blockSize with
    | none => .error .overflow grown
    | some room => if room < total then .error .overfilled grown else .ok () grown

def cleared (table : BlockTable) : BlockTable := { table with blocks := [], numTokens := 0 }

end BlockTable

end SlotServe
