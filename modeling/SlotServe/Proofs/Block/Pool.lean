import Mathlib.Data.List.Basic
import Mathlib.Data.List.Nodup
import Mathlib.Data.List.Perm.Basic
import SlotServe.Block.Pool

/-! Ownership in the block pool. The free ids and the ids that are out make up all ids of the pool,
each once, and the flags tell the two apart. -/
namespace SlotServe.BlockPool

theorem size_mark (used : Bool) (flags : Array Bool) (blocks : List Nat) :
    (mark used flags blocks).size = flags.size := by
  induction blocks generalizing flags with
  | nil => rfl
  | cons block rest ih =>
    change (mark used (flags.setIfInBounds block used) rest).size = flags.size
    rw [ih, Array.size_setIfInBounds]

theorem getElem?_mark (used : Bool) (flags : Array Bool) (blocks : List Nat) (block : Nat)
    (inside : block < flags.size) :
    (mark used flags blocks)[block]? = if block ∈ blocks then some used else flags[block]? := by
  induction blocks generalizing flags with
  | nil => simp [mark]
  | cons first rest ih =>
    change (mark used (flags.setIfInBounds first used) rest)[block]? = _
    rw [ih _ (by simpa using inside)]
    by_cases later : block ∈ rest
    · simp [later]
    · by_cases same : first = block
      · subst first
        simp [later, inside]
      · simp [later, same, Ne.symm same]

def taken (pool : BlockPool) (count : Nat) : BlockPool :=
  ⟨mark true pool.inUse (pool.free.take count), pool.free.drop count⟩

def returned (pool : BlockPool) (blocks : List Nat) : BlockPool :=
  ⟨mark false pool.inUse blocks, blocks.reverse ++ pool.free⟩

theorem allocate_eq (pool : BlockPool) (count : Nat) :
    pool.allocate count =
      if pool.numFree < count then .error (.outOfBlocks count pool.numFree)
      else .ok (pool.free.take count, pool.taken count) := rfl

structure Accounts (pool : BlockPool) (numBlocks : Nat) (out : List Nat) : Prop where
  total : pool.numTotal = numBlocks
  once : (pool.free ++ out).Perm (List.range numBlocks)
  flags : ∀ block, pool.owns block = true ↔ block ∈ out

variable {pool : BlockPool} {numBlocks count : Nat} {out blocks : List Nat}

theorem fresh_accounts (numBlocks : Nat) : (fresh numBlocks).Accounts numBlocks [] := by
  refine ⟨by simp [numTotal, fresh], by simp [fresh], ?_⟩
  intro block
  by_cases inside : block < numBlocks <;> simp [owns, fresh, inside]

namespace Accounts

theorem perm (accounts : pool.Accounts numBlocks out) {other : List Nat} (same : out.Perm other) :
    pool.Accounts numBlocks other :=
  ⟨accounts.total, (same.append_left pool.free).symm.trans accounts.once,
    fun block => (accounts.flags block).trans same.mem_iff⟩

theorem nodup (accounts : pool.Accounts numBlocks out) : (pool.free ++ out).Nodup :=
  accounts.once.nodup_iff.mpr List.nodup_range

theorem lt_of_mem_free (accounts : pool.Accounts numBlocks out) {block : Nat}
    (member : block ∈ pool.free) : block < pool.inUse.size := by
  have inRange := accounts.once.mem_iff.mp (List.mem_append_left out member)
  have total : pool.inUse.size = numBlocks := accounts.total
  rw [total]
  exact List.mem_range.mp inRange

theorem lt_of_mem_out (accounts : pool.Accounts numBlocks out) {block : Nat}
    (member : block ∈ out) : block < pool.inUse.size := by
  have inRange := accounts.once.mem_iff.mp (List.mem_append_right pool.free member)
  have total : pool.inUse.size = numBlocks := accounts.total
  rw [total]
  exact List.mem_range.mp inRange

theorem numFree_add (accounts : pool.Accounts numBlocks out) :
    pool.numFree + out.length = numBlocks := by
  have lengths := accounts.once.length_eq
  rwa [List.length_append, List.length_range] at lengths

theorem taken (accounts : pool.Accounts numBlocks out) (count : Nat) :
    (pool.taken count).Accounts numBlocks (pool.free.take count ++ out) := by
  refine ⟨(size_mark _ _ _).trans accounts.total, ?_, ?_⟩
  · have moved : (pool.free.drop count ++ (pool.free.take count ++ out)).Perm
        ((pool.free.take count ++ pool.free.drop count) ++ out) := by
      rw [← List.append_assoc]
      exact List.perm_append_comm.append_right out
    rw [List.take_append_drop] at moved
    exact moved.trans accounts.once
  · intro block
    rw [List.mem_append, ← accounts.flags block]
    by_cases inside : block < pool.inUse.size
    · rw [owns, BlockPool.taken, getElem?_mark _ _ _ _ inside]
      by_cases granted : block ∈ pool.free.take count <;> simp [granted, owns]
    · have outside : block ∉ pool.free.take count := fun member =>
        inside (accounts.lt_of_mem_free (List.mem_of_mem_take member))
      have beyond : (mark true pool.inUse (pool.free.take count)).size ≤ block := by
        rw [size_mark]
        omega
      simp [owns, BlockPool.taken, outside, inside, Array.getElem?_eq_none beyond]

end Accounts

/-- A batch is checked in order: the search ends without a find when its blocks are all out and
neither repeat nor were seen before. -/
theorem firstUnowned_eq_none (pool : BlockPool) (seen blocks : List Nat)
    (owned : ∀ block ∈ blocks, pool.owns block = true) (distinct : blocks.Nodup)
    (unseen : ∀ block ∈ blocks, block ∉ seen) : firstUnowned pool seen blocks = none := by
  induction blocks generalizing seen with
  | nil => rfl
  | cons first rest ih =>
    obtain ⟨absent, distinct⟩ := List.nodup_cons.mp distinct
    have passes : (pool.owns first && !seen.contains first) = true := by
      simp [owned first (by simp), unseen first (by simp)]
    rw [firstUnowned, if_pos passes]
    refine ih (first :: seen) (fun block member => owned block (by simp [member])) distinct ?_
    intro block member
    rw [List.mem_cons, not_or]
    exact ⟨fun same => absent (same ▸ member), unseen block (by simp [member])⟩

namespace Accounts

/-- Blocks that are out can be returned together, and are free afterwards. -/
theorem release_eq (accounts : pool.Accounts numBlocks (blocks ++ out)) :
    pool.release blocks = .ok (pool.returned blocks) := by
  have distinct : blocks.Nodup :=
    (accounts.nodup.sublist (List.sublist_append_right _ _)).sublist (List.sublist_append_left _ _)
  have found : firstUnowned pool [] blocks = none :=
    firstUnowned_eq_none pool [] blocks
      (fun block member => (accounts.flags block).mpr (List.mem_append_left out member)) distinct
      (by simp)
  simp only [release, found, BlockPool.returned]

theorem returned (accounts : pool.Accounts numBlocks (blocks ++ out)) :
    (pool.returned blocks).Accounts numBlocks out := by
  have distinct : (blocks ++ out).Nodup :=
    accounts.nodup.sublist (List.sublist_append_right _ _)
  refine ⟨(size_mark _ _ _).trans accounts.total, ?_, ?_⟩
  · have moved : (blocks.reverse ++ pool.free ++ out).Perm (pool.free ++ (blocks ++ out)) := by
      rw [← List.append_assoc pool.free]
      refine List.Perm.append_right out ?_
      exact ((List.reverse_perm blocks).append_right pool.free).trans List.perm_append_comm
    exact moved.trans accounts.once
  · intro block
    by_cases inside : block < pool.inUse.size
    · rw [owns, BlockPool.returned, getElem?_mark _ _ _ _ inside]
      by_cases back : block ∈ blocks
      · have stays : block ∉ out := fun member =>
          (List.nodup_append.mp distinct).2.2 block back block member rfl
        simp [back, stays]
      · have before := accounts.flags block
        rw [List.mem_append] at before
        simpa [back, owns] using before
    · have outside : block ∉ out := fun member =>
        inside (accounts.lt_of_mem_out (List.mem_append_right blocks member))
      have beyond : (mark false pool.inUse blocks).size ≤ block := by
        rw [size_mark]
        omega
      simp [owns, BlockPool.returned, outside, Array.getElem?_eq_none beyond]

end Accounts

end SlotServe.BlockPool
