import SlotServe.Proofs.Block.Ownership

/-! Caches that differ only in which blocks a row owns. No operation can tell them apart: it answers
the same on both, and leaves caches that again differ only so. -/
namespace SlotServe

def BlockTable.outline (table : BlockTable) : Nat × Nat × Nat :=
  (table.blocks.length, table.numTokens, table.blockSize)

namespace BlockTable

variable {table other : BlockTable}

theorem blocksNeeded_outline (same : table.outline = other.outline) (count : Nat) :
    table.blocksNeeded count = other.blocksNeeded count := by
  simp only [outline, Prod.mk.injEq] at same
  simp only [blocksNeeded, same]

theorem isEmpty_outline (same : table.outline = other.outline) : table.isEmpty = other.isEmpty := by
  simp only [outline, Prod.mk.injEq] at same
  rw [isEmpty, isEmpty, Bool.eq_iff_iff, List.isEmpty_iff_length_eq_zero,
    List.isEmpty_iff_length_eq_zero, same.1]

theorem Snug.outline {blockSize count : Nat} (snug : table.Snug blockSize) (tokens : table.numTokens = count) :
    table.outline = (Size.groups count (max blockSize 1), count, max blockSize 1) := by
  rw [BlockTable.outline, snug.exact, snug.sized, tokens]

theorem extend_outline (same : table.outline = other.outline) {granted blocks : List Nat}
    (size : granted.length = blocks.length) (count : Nat) :
    SameEnd (fun grown twin => grown.outline = twin.outline) (extend granted count table)
      (extend blocks count other) := by
  simp only [outline, Prod.mk.injEq] at same
  have length : (table.blocks ++ granted).length = (other.blocks ++ blocks).length := by
    simp only [List.length_append, same, size]
  simp only [extend, same, length]
  split
  · exact .error _ (by simp only [outline, length])
  · split
    · exact .error _ (by simp only [outline, length])
    · split
      · exact .error _ (by simp only [outline, length])
      · exact .ok () (by simp only [outline, length])

end BlockTable

namespace SlotBlocks

structure Alike (cache twin : SlotBlocks) : Prop where
  tables : cache.slots.map (·.map BlockTable.outline) = twin.slots.map (·.map BlockTable.outline)
  free : cache.pool.numFree = twin.pool.numFree

variable {cache twin : SlotBlocks}

namespace Alike

theorem rows (alike : cache.Alike twin) (slot : Nat) :
    cache.slots[slot]?.map (·.map BlockTable.outline) =
      twin.slots[slot]?.map (·.map BlockTable.outline) := by
  rw [← List.getElem?_map, ← List.getElem?_map, alike.tables]

theorem numSlots (alike : cache.Alike twin) : cache.numSlots = twin.numSlots := by
  have length := congrArg List.length alike.tables
  simpa only [List.length_map, SlotBlocks.numSlots] using length

theorem table? (alike : cache.Alike twin) (slot row : Nat) :
    (cache.table? slot row).map BlockTable.outline = (twin.table? slot row).map BlockTable.outline := by
  have same := congrArg (fun rows : Option (List (Nat × Nat × Nat)) => rows.bind (·[row]?)) (alike.rows slot)
  simpa only [Option.bind_map, Function.comp_def, List.getElem?_map, SlotBlocks.table?,
    Option.map_bind] using same

theorem isLive (alike : cache.Alike twin) (slot row : Nat) :
    cache.isLive slot row = twin.isLive slot row := by
  have same := alike.table? slot row
  unfold SlotBlocks.isLive
  cases found : cache.table? slot row with
  | none =>
    rw [found] at same
    rw [Option.map_eq_none_iff.mp same.symm]
  | some table =>
    rw [found] at same
    obtain ⟨other, located, outline⟩ := Option.map_eq_some_iff.mp same.symm
    simp only [located, Option.any_some, BlockTable.isEmpty_outline outline]

theorem setTable (alike : cache.Alike twin) (slot row : Nat) {table other : BlockTable}
    (same : table.outline = other.outline) :
    (cache.setTable slot row table).Alike (twin.setTable slot row other) := by
  have rows (tables : List BlockTable) (table : BlockTable) :
      (tables.set row table).map BlockTable.outline =
        (tables.map BlockTable.outline).set row table.outline := List.map_set
  have slots (cache : SlotBlocks) (table : BlockTable) :
      (cache.setTable slot row table).slots.map (·.map BlockTable.outline) =
        (cache.slots.map (·.map BlockTable.outline)).modify slot (·.set row table.outline) := by
    refine List.ext_getElem? fun i => ?_
    simp only [SlotBlocks.setTable, List.getElem?_map, List.getElem?_modify]
    cases cache.slots[i]? with
    | none => rfl
    | some tables =>
      simp only [Option.map_some]
      split
      · exact congrArg some (rows tables table)
      · rfl
  exact ⟨by rw [slots, slots, alike.tables, same], alike.free⟩

end Alike

theorem length_held (tables : List BlockTable) :
    (held tables).length = Size.total ((tables.map BlockTable.outline).map (·.1)) := by
  induction tables with
  | nil => rfl
  | cons table rest ih =>
    change (table.blocks ++ held rest).length = table.blocks.length + Size.total _
    rw [List.length_append, ih]

theorem length_heldBlocks (cache : SlotBlocks) : cache.heldBlocks.length =
    Size.total ((cache.slots.map (·.map BlockTable.outline)).map fun tables => Size.total (tables.map (·.1))) := by
  unfold heldBlocks
  induction cache.slots with
  | nil => rfl
  | cons tables rest ih =>
    rw [List.flatMap_cons, List.length_append, length_held, ih]
    rfl

/-- Where all blocks are accounted for, the tables tell how many are free. -/
theorem Accounted.alike_of_outlines {blockSize numBlocks : Nat} (accounted : cache.Accounted blockSize numBlocks)
    (other : twin.Accounted blockSize numBlocks)
    (tables : cache.slots.map (·.map BlockTable.outline) = twin.slots.map (·.map BlockTable.outline)) :
    cache.Alike twin := by
  refine ⟨tables, ?_⟩
  have held : cache.heldBlocks.length = twin.heldBlocks.length := by
    rw [length_heldBlocks, length_heldBlocks, tables]
  have total := accounted.pool.numFree_add
  have otherTotal := other.pool.numFree_add
  omega

theorem reserve_alike (slot row count : Nat) :
    Mirrors Alike (reserve slot row count) (reserve slot row count) := by
  intro cache twin alike
  have same := alike.rows slot
  unfold reserve rows
  cases present : cache.slots[slot]? with
  | none =>
    rw [present] at same
    rw [Option.map_eq_none_iff.mp same.symm, alike.numSlots]
    exact .error _ alike
  | some tables =>
    rw [present] at same
    obtain ⟨others, otherPresent, outlines⟩ := Option.map_eq_some_iff.mp same.symm
    have length : others.length = tables.length := by
      simpa only [List.length_map] using congrArg List.length outlines
    have rows := congrArg (·[row]?) outlines
    simp only [List.getElem?_map] at rows
    rw [otherPresent]
    dsimp only
    cases located : tables[row]? with
    | none =>
      rw [located] at rows
      rw [Option.map_eq_none_iff.mp rows, length]
      exact .error _ alike
    | some table =>
      rw [located] at rows
      obtain ⟨other, otherLocated, outline⟩ := Option.map_eq_some_iff.mp rows
      rw [otherLocated]
      dsimp only
      rw [BlockTable.blocksNeeded_outline outline]
      cases table.blocksNeeded count with
      | error cause => exact .error _ alike
      | ok needed =>
        -- How many blocks are free decides, and which of them are granted does not show in an outline.
        simp only [draw_eq, BlockPool.allocate_eq, alike.free]
        by_cases short : twin.pool.numFree < needed
        · simp only [if_pos short]
          exact .error _ alike
        · simp only [if_neg short]
          have taken : ({ cache with pool := cache.pool.taken needed } : SlotBlocks).Alike
              { twin with pool := twin.pool.taken needed } := by
            refine ⟨alike.tables, ?_⟩
            have free := alike.free
            simp only [BlockPool.numFree, BlockPool.taken, List.length_drop] at free ⊢
            rw [free]
          have size : (cache.pool.free.take needed).length = (twin.pool.free.take needed).length := by
            have free := alike.free
            simp only [BlockPool.numFree, List.length_take] at free ⊢
            rw [free]
          have grown := BlockTable.extend_outline outline.symm size count
          generalize BlockTable.extend _ count table = ended at grown
          generalize BlockTable.extend _ count other = otherEnded at grown
          cases grown with
          | ok _ outline => exact .ok () (taken.setTable slot row outline)
          | error _ outline => exact .error _ (taken.setTable slot row outline)

end SlotBlocks

end SlotServe
