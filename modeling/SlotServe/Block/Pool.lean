import SlotServe.Fault
import SlotServe.Size
/-! The pool of cache blocks. It only keeps account: ids are handed out from a stack and taken back
onto it, and a flag for each id says whether it is out. -/
namespace SlotServe

structure BlockPool where
  /-- One flag for each id: whether the block is handed out. -/
  inUse : Array Bool
  /-- Free ids, the next one to be handed out in front. -/
  free : List Nat
  deriving DecidableEq

namespace BlockPool

def fresh (numBlocks : Nat) : BlockPool := ⟨Array.replicate numBlocks false, List.range numBlocks⟩

def fitsMemory (numBlocks : Nat) : Bool := Size.addressable numBlocks 8

def numFree (pool : BlockPool) : Nat := pool.free.length

def numTotal (pool : BlockPool) : Nat := pool.inUse.size

def numUsed (pool : BlockPool) : Nat := pool.numTotal - pool.numFree

def owns (pool : BlockPool) (block : Nat) : Bool := pool.inUse[block]?.getD false

def mark (used : Bool) (flags : Array Bool) (blocks : List Nat) : Array Bool :=
  blocks.foldl (fun flags block => flags.setIfInBounds block used) flags

def allocate (pool : BlockPool) (count : Nat) : Except BlockFault (List Nat × BlockPool) :=
  if pool.numFree < count then .error (.outOfBlocks count pool.numFree)
  else
    let granted := pool.free.take count
    .ok (granted, ⟨mark true pool.inUse granted, pool.free.drop count⟩)

def firstUnowned (pool : BlockPool) (seen : List Nat) : List Nat → Option Nat
  | [] => none
  | block :: rest =>
    if pool.owns block && !seen.contains block then firstUnowned pool (block :: seen) rest
    else some block

/-- Take a batch of blocks back. The whole batch is checked before any of it is released. -/
def release (pool : BlockPool) (blocks : List Nat) : Except BlockFault BlockPool :=
  match firstUnowned pool [] blocks with
  | some block => .error (.notAllocated block)
  | none => .ok ⟨mark false pool.inUse blocks, blocks.reverse ++ pool.free⟩

end BlockPool

end SlotServe
