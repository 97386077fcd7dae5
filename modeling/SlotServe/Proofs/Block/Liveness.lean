import SlotServe.Proofs.Block.Frame

/-! Which rows own blocks, and how many tokens they count. Growing a row that owns blocks leaves every
row as live as it was. Growing all rows of an empty slot ends with blocks for each row or for want of
blocks, and in no other way. -/
namespace SlotServe.SlotBlocks

variable {cache after : SlotBlocks} {slot row count blockSize numBlocks : Nat}

def SameLive (before after : SlotBlocks) : Prop := ∀ slot row, after.isLive slot row = before.isLive slot row

theorem isLive_of_table? {slot' row' : Nat} (same : after.table? slot' row' = cache.table? slot' row') :
    after.isLive slot' row' = cache.isLive slot' row' := by
  rw [isLive, isLive, same]

theorem SameBut.isLive {before after : SlotBlocks} (same : SameBut slot before after) {other : Nat}
    (different : other ≠ slot) (row : Nat) : after.isLive other row = before.isLive other row :=
  isLive_of_table? (same.table? different row)

theorem isLive_fresh (blockSize numBlocks numSlots samples slot row : Nat) :
    (fresh blockSize numBlocks numSlots samples).isLive slot row = false := by
  cases present : (fresh blockSize numBlocks numSlots samples).slots[slot]? with
  | none => simp [isLive, table?, present]
  | some tables =>
    refine isLive_eq_false present fun table member => ?_
    obtain rfl := List.eq_of_mem_replicate (List.mem_of_getElem? present)
    obtain rfl := List.eq_of_mem_replicate member
    rfl

theorem table?_granting {table : BlockTable} (found : cache.table? slot row = some table) :
    (cache.granting slot row count table).table? slot row =
      some (table.grown (cache.pool.free.take (table.wanted count)) count) := by
  have found : ({ cache with pool := cache.pool.taken (table.wanted count) } : SlotBlocks).table?
      slot row = some table := found
  simp [granting, table?_setTable, found]

theorem reserve_granted (ok : reserve slot row count cache = .ok () after) :
    ∃ table granted, cache.table? slot row = some table ∧
      after.table? slot row = some (table.grown granted count) ∧ granted.length = table.wanted count := by
  have growth := reserve_growth cache slot row count
  rw [ok] at growth
  cases growth with
  | granted table found enough => exact ⟨table, _, found, table?_granting found, List.length_take_of_le enough⟩

theorem reserve_success (ok : reserve slot row count cache = .ok () after) :
    ∃ table granted, cache.table? slot row = some table ∧
      after.table? slot row = some (table.grown granted count) := by
  obtain ⟨table, granted, found, taken, -⟩ := reserve_granted ok
  exact ⟨table, granted, found, taken⟩

theorem isLive_granting {table : BlockTable} (found : cache.table? slot row = some table)
    (live : cache.isLive slot row = true) :
    (cache.granting slot row count table).isLive slot row = true := by
  have some : table.blocks ≠ [] := by simpa [isLive, found, BlockTable.isEmpty] using live
  simp [isLive, table?_granting found, BlockTable.isEmpty, BlockTable.grown, some]

theorem sameLive_reserve {before : SlotBlocks} (live : before.isLive slot row = true) (count : Nat) :
    Keeps (SameLive before) (reserve slot row count) := by
  intro cache same slot' row'
  rw [← same slot' row']
  by_cases here : slot' = slot ∧ row' = row
  · obtain ⟨rfl, rfl⟩ := here
    have owning := (same slot' row').trans live
    have growth := reserve_growth cache slot' row' count
    generalize reserve slot' row' count cache = ended at growth
    cases growth with
    | noSlot | noRow | uncounted | refused => rfl
    | granted table found => exact (isLive_granting found owning).trans owning.symm
    | overrun table cause found => exact (isLive_granting found owning).trans owning.symm
  · exact isLive_of_table? (table?_reserve here)

theorem reserveRows_success {rows : Nat} (some : count ≠ 0)
    (ok : reserveRows slot count row rows cache = .ok () after) :
    (∀ place < row, after.table? slot place = cache.table? slot place) ∧
      ∀ place, row ≤ place → place < row + rows → after.isLive slot place = true ∧
        ∃ table granted, cache.table? slot place = Option.some table ∧
          after.table? slot place = Option.some (table.grown granted count) := by
  induction rows generalizing row cache with
  | zero =>
    cases ok
    exact ⟨fun _ _ => rfl, fun place low high => absurd high (by omega)⟩
  | succ rows ih =>
    obtain ⟨_, between, grown, rest⟩ := bind_links ok
    obtain ⟨earlier, later⟩ := ih rest
    have framed (place : Nat) (other : place ≠ row) : between.table? slot place = cache.table? slot place := by
      have kept : (left (reserve slot row count cache)).table? slot place = cache.table? slot place :=
        table?_reserve fun same => other same.2
      rwa [grown] at kept
    refine ⟨fun place before => ?_, fun place low high => ?_⟩
    · exact (earlier place (by omega)).trans (framed place (by omega))
    · rcases Nat.eq_or_lt_of_le low with rfl | above
      · have same := earlier row (Nat.lt_succ_self row)
        obtain ⟨table, granted, found, taken⟩ := reserve_success grown
        exact ⟨(isLive_of_table? same).trans (isLive_reserve some grown), table, granted, found, same.trans taken⟩
      · obtain ⟨live, table, granted, found, taken⟩ := later place above (by omega)
        exact ⟨live, table, granted, (framed place (by omega)).symm.trans found, taken⟩

def Vacant (cache : SlotBlocks) (slot : Nat) : Prop :=
  ∀ row table, cache.table? slot row = some table → table.numTokens = 0

theorem vacant_of_idle (accounted : cache.Accounted blockSize numBlocks)
    (idle : ∀ row, cache.isLive slot row = false) : cache.Vacant slot := by
  intro row table found
  have empty := idle row
  simp only [isLive, found, Option.any_some, Bool.not_eq_false', BlockTable.isEmpty, List.isEmpty_iff] at empty
  exact (accounted.snug slot row table found).tokens_eq_zero empty

theorem numFree_emptied (cache : SlotBlocks) (slot : Nat) (tables : List BlockTable) :
    (cache.emptied slot tables).pool.numFree = cache.pool.numFree + (held tables).length := by
  simp [emptied, BlockPool.returned, BlockPool.numFree, Nat.add_comm]

theorem held_of_idle {tables : List BlockTable} (present : cache.slots[slot]? = some tables)
    (idle : ∀ row, cache.isLive slot row = false) : ∀ table ∈ tables, table.blocks = [] := by
  intro table member
  obtain ⟨row, located⟩ := List.mem_iff_getElem?.mp member
  have found : cache.table? slot row = some table := table?_eq_some.mpr ⟨tables, present, located⟩
  have none := idle row
  simpa [isLive, found, BlockTable.isEmpty] using none

theorem emptied_of_idle (accounted : cache.Accounted blockSize numBlocks) {tables : List BlockTable}
    (present : cache.slots[slot]? = some tables) (idle : ∀ row, cache.isLive slot row = false) :
    cache.emptied slot tables = cache := by
  have empty := held_of_idle present idle
  have nothing : held tables = [] := List.flatMap_eq_nil_iff.mpr empty
  have cleared : tables.map BlockTable.cleared = tables := by
    refine (List.map_congr_left fun table member => ?_).trans (List.map_id tables)
    obtain ⟨row, located⟩ := List.mem_iff_getElem?.mp member
    exact (accounted.snug slot row table (table?_eq_some.mpr ⟨tables, present, located⟩)).cleared_of_empty
      (empty table member)
  obtain ⟨inside, rfl⟩ := List.getElem?_eq_some_iff.mp present
  rw [emptied, nothing, cleared, List.set_getElem_self]
  rfl

/-- Growing the rows of a vacant slot fails for want of blocks or a wrong place, never on a defect. -/
theorem reserveRows_refused {rows : Nat} (accounted : cache.Accounted blockSize numBlocks)
    (word : blockSize < Size.limit) (short : count ≤ Size.half)
    (vacant : ∀ place table, row ≤ place → cache.table? slot place = some table → table.numTokens = 0)
    {fault : Fault} (failed : reserveRows slot count row rows cache = .error fault after) :
    ∃ cause, fault = .blocks cause := by
  induction rows generalizing row cache with
  | zero => cases failed
  | succ rows ih =>
    have storable (table : BlockTable) (found : cache.table? slot row = some table) :
        table.Storable count := by
      refine (accounted.snug slot row table found).storable word ?_
      rwa [vacant row table (Nat.le_refl row) found, Nat.zero_add]
    rcases bind_faults failed with first | ⟨_, between, grown, rest⟩
    · obtain ⟨-, cause, refused, -⟩ := accounted.reserve_refused storable first
      exact ⟨cause, refused⟩
    · have later := reserve_keeps slot row count cache accounted
      rw [grown] at later
      refine ih later (fun place table above found => ?_) rest
      have kept : (left (reserve slot row count cache)).table? slot place = cache.table? slot place :=
        table?_reserve (by omega)
      rw [grown] at kept
      exact vacant place table (by omega) (kept.symm.trans found)

end SlotServe.SlotBlocks
