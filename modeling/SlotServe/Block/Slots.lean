import SlotServe.Block.Pool
import SlotServe.Block.Table
import SlotServe.Fault
/-! Block tables of every slot, one per decode row, over one shared pool. A row grows by drawing
blocks from the pool, and a slot gives back the blocks of all its rows at once. -/
namespace SlotServe

structure SlotBlocks where
  pool : BlockPool
  /-- For each slot the tables of its rows. -/
  slots : List (List BlockTable)
  deriving DecidableEq

namespace SlotBlocks

def fresh (blockSize numBlocks numSlots samples : Nat) : SlotBlocks :=
  ⟨.fresh numBlocks, List.replicate numSlots (List.replicate samples (.ofBlockSize blockSize))⟩

/-- The lists of a fresh cache must be addressable: a slot takes 32 bytes, and a row of a slot 40. -/
def fitsMemory (numBlocks numSlots samples : Nat) : Bool :=
  Size.addressable numSlots 32 && (numSlots = 0 || Size.addressable samples 40) &&
    BlockPool.fitsMemory numBlocks

def create (blockSize numBlocks numSlots samples : Nat) : Except Fault SlotBlocks :=
  if fitsMemory numBlocks numSlots samples then
    .ok (.fresh blockSize numBlocks numSlots (if numSlots = 0 then 0 else samples))
  else .error (.defect .capacity)

def numSlots (cache : SlotBlocks) : Nat := cache.slots.length

def rows (cache : SlotBlocks) (slot : Nat) : Except Fault (List BlockTable) :=
  match cache.slots[slot]? with
  | some tables => .ok tables
  | none => .error (.blocks (.unknownSlot slot cache.numSlots))

def table? (cache : SlotBlocks) (slot row : Nat) : Option BlockTable :=
  cache.slots[slot]?.bind (·[row]?)

def isLive (cache : SlotBlocks) (slot row : Nat) : Bool :=
  (cache.table? slot row).any fun table => !table.isEmpty

def setTable (cache : SlotBlocks) (slot row : Nat) (table : BlockTable) : SlotBlocks :=
  { cache with slots := cache.slots.modify slot (·.set row table) }

def draw (pool : BlockPool) (count : Nat) : Except BlockFault (List Nat × BlockPool) :=
  if count = 0 then .ok ([], pool) else pool.allocate count

def reserve (slot row count : Nat) : EStateM Fault SlotBlocks Unit := fun cache =>
  match cache.rows slot with
  | .error fault => .error fault cache
  | .ok tables =>
    match tables[row]? with
    | none => .error (.blocks (.unknownSlot row tables.length)) cache
    | some table =>
      match table.blocksNeeded count with
      | .error defect => .error (.defect defect) cache
      | .ok needed =>
        match draw cache.pool needed with
        | .error cause => .error (.blocks cause) cache
        | .ok (granted, pool) =>
          match BlockTable.extend granted count table with
          | .ok _ grown => .ok () ({ cache with pool }.setTable slot row grown)
          -- The row keeps the blocks, however far its table had come.
          | .error defect grown => .error (.defect defect) ({ cache with pool }.setTable slot row grown)

def held (tables : List BlockTable) : List Nat := tables.flatMap (·.blocks)

def freeSlot (slot : Nat) : EStateM Fault SlotBlocks Nat := fun cache =>
  match cache.rows slot with
  | .error fault => .error fault cache
  | .ok tables =>
    -- The tables are emptied before the pool is asked, and stay empty if it refuses.
    let emptied := { cache with slots := cache.slots.set slot (tables.map BlockTable.cleared) }
    let blocks := held tables
    if blocks.isEmpty then .ok 0 emptied
    else
      match cache.pool.release blocks with
      | .error cause => .error (.blocks cause) emptied
      | .ok pool => .ok blocks.length { emptied with pool }

def reserveRows (slot count : Nat) : Nat → Nat → EStateM Fault SlotBlocks Unit
  | _, 0 => pure ()
  | row, rows + 1 => do
    reserve slot row count
    reserveRows slot count (row + 1) rows

end SlotBlocks

end SlotServe
