import SlotServe.Block.Slots
import SlotServe.Proofs.Block.Pool
import SlotServe.Proofs.Block.Table
import SlotServe.Proofs.Lists

/-! Ownership of cache blocks across all slots. Every block is free or in the table of exactly one
row, and a row holds as many blocks as its tokens need. Growing a row and freeing a slot keep this,
also when they fail, and a slot that is there can always be freed. -/
namespace SlotServe

namespace SlotBlocks

def heldBlocks (cache : SlotBlocks) : List Nat := cache.slots.flatMap held

/-- Every block is free or in exactly one table, and every table holds what its tokens need. -/
structure Accounted (blockSize numBlocks : Nat) (cache : SlotBlocks) : Prop where
  pool : cache.pool.Accounts numBlocks cache.heldBlocks
  snug : ∀ slot row table, cache.table? slot row = some table → table.Snug blockSize

theorem table?_eq_some {cache : SlotBlocks} {slot row : Nat} {table : BlockTable} :
    cache.table? slot row = some table ↔
      ∃ tables, cache.slots[slot]? = some tables ∧ tables[row]? = some table :=
  Option.bind_eq_some_iff

def granting (cache : SlotBlocks) (slot row count : Nat) (table : BlockTable) : SlotBlocks :=
  let needed := table.wanted count
  { cache with pool := cache.pool.taken needed }.setTable slot row
    (table.grown (cache.pool.free.take needed) count)

def emptied (cache : SlotBlocks) (slot : Nat) (tables : List BlockTable) : SlotBlocks :=
  ⟨cache.pool.returned (held tables), cache.slots.set slot (tables.map BlockTable.cleared)⟩

theorem draw_eq (pool : BlockPool) (count : Nat) : draw pool count = pool.allocate count := by
  unfold draw
  split
  next zero =>
    subst zero
    rw [BlockPool.allocate_eq, if_neg (Nat.not_lt_zero _)]
    rfl
  next => rfl

inductive Growth (cache : SlotBlocks) (slot row count : Nat) : EStateM.Result Fault SlotBlocks Unit → Prop
  | noSlot (absent : cache.slots[slot]? = none) :
      Growth cache slot row count (.error (.blocks (.unknownSlot slot cache.numSlots)) cache)
  | noRow (tables : List BlockTable) (present : cache.slots[slot]? = some tables)
      (absent : tables[row]? = none) :
      Growth cache slot row count (.error (.blocks (.unknownSlot row tables.length)) cache)
  | uncounted (table : BlockTable) (cause : Defect) (found : cache.table? slot row = some table)
      (broken : table.blocksNeeded count = .error cause) :
      Growth cache slot row count (.error (.defect cause) cache)
  | refused (table : BlockTable) (found : cache.table? slot row = some table)
      (short : cache.pool.numFree < table.wanted count) :
      Growth cache slot row count
        (.error (.blocks (.outOfBlocks (table.wanted count) cache.pool.numFree)) cache)
  | granted (table : BlockTable) (found : cache.table? slot row = some table)
      (enough : table.wanted count ≤ cache.pool.numFree) (sized : count ≠ 0 → 0 < table.blockSize)
      (taken : ∃ granted, BlockTable.extend granted count table = .ok () (table.grown granted count) ∧
        granted.length = table.wanted count) :
      Growth cache slot row count (.ok () (cache.granting slot row count table))
  | overrun (table : BlockTable) (cause : Defect) (found : cache.table? slot row = some table)
      (enough : table.wanted count ≤ cache.pool.numFree)
      (broken : ∃ granted, BlockTable.extend granted count table =
        .error cause (table.grown granted count) ∧ granted.length = table.wanted count) :
      Growth cache slot row count (.error (.defect cause) (cache.granting slot row count table))

theorem reserve_growth (cache : SlotBlocks) (slot row count : Nat) :
    Growth cache slot row count (reserve slot row count cache) := by
  unfold reserve rows
  cases present : cache.slots[slot]? with
  | none => exact .noSlot present
  | some tables =>
    cases located : tables[row]? with
    | none =>
      simp only [located]
      exact .noRow tables present located
    | some table =>
      have found : cache.table? slot row = some table := table?_eq_some.mpr ⟨tables, present, located⟩
      simp only [located]
      cases counted : table.blocksNeeded count with
      | error cause => exact .uncounted table cause found counted
      | ok needed =>
        obtain ⟨rfl, measured⟩ := BlockTable.blocksNeeded_success counted
        simp only [draw_eq, BlockPool.allocate_eq]
        by_cases short : cache.pool.numFree < table.wanted count
        · simp only [if_pos short]
          exact .refused table found short
        · simp only [if_neg short]
          have enough : table.wanted count ≤ cache.pool.numFree := by omega
          have size : (cache.pool.free.take (table.wanted count)).length = table.wanted count :=
            List.length_take_of_le enough
          have grown := BlockTable.left_extend table (cache.pool.free.take (table.wanted count)) count
            fun some => (measured some).1
          cases ended : BlockTable.extend (cache.pool.free.take (table.wanted count)) count table with
          | ok done after =>
            rw [ended] at grown
            obtain rfl : after = _ := grown
            exact .granted table found enough (fun some => (measured some).2) ⟨_, ended, size⟩
          | error cause after =>
            rw [ended] at grown
            obtain rfl : after = _ := grown
            exact .overrun table cause found enough ⟨_, ended, size⟩

variable {blockSize numBlocks : Nat} {cache : SlotBlocks} {slot row count : Nat}

theorem held_set_perm {tables : List BlockTable} {table : BlockTable} (found : tables[row]? = some table) :
    ∃ rest, (held tables).Perm (table.blocks ++ rest) ∧
      ∀ new, (held (tables.set row new)).Perm (new.blocks ++ rest) :=
  flatMap_set_perm BlockTable.blocks found

/-- The blocks of one row and those of all other rows, before and after the row's table changes. -/
theorem heldBlocks_setTable {table : BlockTable} (found : cache.table? slot row = some table) :
    ∃ rest, cache.heldBlocks.Perm (table.blocks ++ rest) ∧
      ∀ new, (cache.setTable slot row new).heldBlocks.Perm (new.blocks ++ rest) := by
  obtain ⟨tables, present, located⟩ := table?_eq_some.mp found
  obtain ⟨others, before, after⟩ := flatMap_set_perm held present
  obtain ⟨rest, rowBefore, rowAfter⟩ := held_set_perm located
  refine ⟨rest ++ others, ?_, fun new => ?_⟩
  · rw [← List.append_assoc]
    exact before.trans (rowBefore.append_right others)
  · have same : (cache.setTable slot row new).slots = cache.slots.set slot (tables.set row new) := by
      rw [setTable, modify_of_getElem? present]
    rw [heldBlocks, same, ← List.append_assoc]
    exact (after _).trans ((rowAfter new).append_right others)

theorem table?_setTable (cache : SlotBlocks) (slot row : Nat) (table : BlockTable) (slot' row' : Nat) :
    (cache.setTable slot row table).table? slot' row' =
      if slot' = slot ∧ row' = row then (cache.table? slot row).map fun _ => table
      else cache.table? slot' row' := by
  unfold table? setTable
  rw [List.getElem?_modify]
  by_cases slots : slot = slot'
  · subst slot'
    cases cache.slots[slot]? with
    | none => simp
    | some tables =>
      by_cases rows : row = row'
      · subst row'
        cases located : tables[row]? with
        | none => simp [List.getElem?_eq_none_iff.mp located]
        | some old => simp [(List.getElem?_eq_some_iff.mp located).1]
      · simp [rows, Ne.symm rows, List.getElem?_set_ne]
  · simp [slots, Ne.symm slots]

namespace Accounted

theorem granting (accounted : cache.Accounted blockSize numBlocks) {table : BlockTable}
    (found : cache.table? slot row = some table) (enough : table.wanted count ≤ cache.pool.numFree) :
    (cache.granting slot row count table).Accounted blockSize numBlocks := by
  let granted := cache.pool.free.take (table.wanted count)
  have size : granted.length = table.wanted count := List.length_take_of_le enough
  obtain ⟨rest, before, after⟩ := heldBlocks_setTable found
  refine ⟨?_, ?_⟩
  · have moved : (granted ++ (table.blocks ++ rest)).Perm ((table.blocks ++ granted) ++ rest) := by
      rw [← List.append_assoc]
      exact List.perm_append_comm.append_right rest
    exact (accounted.pool.taken (table.wanted count)).perm
      (((before.append_left granted).trans moved).trans (after (table.grown granted count)).symm)
  · intro slot' row' table' found'
    rw [SlotBlocks.granting, table?_setTable] at found'
    split at found'
    next =>
      obtain ⟨_, _, rfl⟩ := Option.map_eq_some_iff.mp found'
      exact (accounted.snug slot row table found).grown size
    next => exact accounted.snug slot' row' table' found'

theorem emptied (accounted : cache.Accounted blockSize numBlocks) {tables : List BlockTable}
    (present : cache.slots[slot]? = some tables) :
    (cache.emptied slot tables).Accounted blockSize numBlocks := by
  obtain ⟨rest, before, after⟩ := flatMap_set_perm held present
  have none : held (tables.map BlockTable.cleared) = [] := by
    simp [held, BlockTable.cleared]
  have after := after (tables.map BlockTable.cleared)
  rw [none, List.nil_append] at after
  refine ⟨(accounted.pool.perm before).returned.perm after.symm, ?_⟩
  intro slot' row table found
  obtain ⟨tables', present', located⟩ := table?_eq_some.mp found
  by_cases same : slot = slot'
  · subst slot'
    have inside := (List.getElem?_eq_some_iff.mp present).1
    obtain rfl : tables.map BlockTable.cleared = tables' := by
      simpa [SlotBlocks.emptied, inside] using present'
    obtain ⟨old, oldLocated, rfl⟩ := by simpa using located
    exact (accounted.snug slot row old (table?_eq_some.mpr ⟨tables, present, oldLocated⟩)).cleared
  · rw [SlotBlocks.emptied, List.getElem?_set_ne same] at present'
    exact accounted.snug slot' row table (table?_eq_some.mpr ⟨tables', present', located⟩)

/-- A slot that is there gives back all its blocks, and says how many they were. -/
theorem freeSlot_eq (accounted : cache.Accounted blockSize numBlocks) {tables : List BlockTable}
    (present : cache.slots[slot]? = some tables) :
    freeSlot slot cache = .ok (held tables).length (cache.emptied slot tables) := by
  obtain ⟨rest, before, _⟩ := flatMap_set_perm held present
  have back := (accounted.pool.perm before).release_eq
  unfold freeSlot rows
  simp only [present]
  split
  next nothing =>
    rw [List.isEmpty_iff] at nothing
    rw [SlotBlocks.emptied, nothing]
    rfl
  next => simp only [back, SlotBlocks.emptied]

end Accounted

theorem freeSlot_absent (absent : cache.slots[slot]? = none) :
    freeSlot slot cache = .error (.blocks (.unknownSlot slot cache.numSlots)) cache := by
  simp only [freeSlot, rows, absent]

theorem reserve_keeps (slot row count : Nat) :
    Keeps (Accounted blockSize numBlocks) (reserve slot row count) := by
  intro cache accounted
  have growth := reserve_growth cache slot row count
  generalize reserve slot row count cache = ended at growth
  cases growth with
  | noSlot | noRow | uncounted | refused => exact accounted
  | granted table found enough => exact accounted.granting found enough
  | overrun table cause found enough => exact accounted.granting found enough

theorem freeSlot_keeps (slot : Nat) : Keeps (Accounted blockSize numBlocks) (freeSlot slot) := by
  intro cache accounted
  cases present : cache.slots[slot]? with
  | none =>
    rw [freeSlot_absent present]
    exact accounted
  | some tables =>
    rw [accounted.freeSlot_eq present]
    exact accounted.emptied present

theorem fresh_accounted (blockSize numBlocks numSlots samples : Nat) :
    (fresh blockSize numBlocks numSlots samples).Accounted blockSize numBlocks := by
  have none : (fresh blockSize numBlocks numSlots samples).heldBlocks = [] := by
    simp [fresh, heldBlocks, held, BlockTable.ofBlockSize]
  refine ⟨none ▸ BlockPool.fresh_accounts numBlocks, ?_⟩
  intro slot row table found
  obtain ⟨tables, present, located⟩ := table?_eq_some.mp found
  obtain ⟨_, rfl⟩ := by simpa [fresh, List.getElem?_replicate] using present
  obtain ⟨_, rfl⟩ := by simpa [List.getElem?_replicate] using located
  exact BlockTable.snug_ofBlockSize blockSize

/-- A row that cannot grow stays as it is, and so does the pool. Only a lack of blocks or a wrong
place keeps a row from growing. -/
theorem Accounted.reserve_refused (accounted : cache.Accounted blockSize numBlocks)
    (storable : ∀ table, cache.table? slot row = some table → table.Storable count)
    {fault : Fault} {after : SlotBlocks} (failed : reserve slot row count cache = .error fault after) :
    after = cache ∧ ∃ cause, fault = .blocks cause ∧ ∀ block, cause ≠ .notAllocated block := by
  have growth := reserve_growth cache slot row count
  rw [failed] at growth
  cases growth with
  | noSlot | noRow | refused => exact ⟨rfl, _, rfl, by simp⟩
  | uncounted table cause found broken =>
    have snug := accounted.snug slot row table found
    rw [snug.blocksNeeded_eq (snug.countable (storable table found))] at broken
    cases broken
  | overrun table cause found enough broken =>
    obtain ⟨granted, broken, size⟩ := broken
    rw [(accounted.snug slot row table found).extend_ok (storable table found) size] at broken
    cases broken

end SlotBlocks

/-- A call on the cache blocks. Freeing a slot and releasing all rows of a locked slot are one call. -/
inductive BlockCall
  | reserve (slot row count : Nat)
  | free (slot : Nat)

namespace BlockCall

def after (cache : SlotBlocks) : BlockCall → SlotBlocks
  | .reserve slot row count => left (SlotBlocks.reserve slot row count cache)
  | .free slot => left (SlotBlocks.freeSlot slot cache)

def afterAll (cache : SlotBlocks) (calls : List BlockCall) : SlotBlocks := calls.foldl after cache

theorem after_accounted {blockSize numBlocks : Nat} {cache : SlotBlocks}
    (accounted : cache.Accounted blockSize numBlocks) (call : BlockCall) :
    (after cache call).Accounted blockSize numBlocks := by
  cases call with
  | reserve slot row count => exact SlotBlocks.reserve_keeps slot row count cache accounted
  | free slot => exact SlotBlocks.freeSlot_keeps slot cache accounted

theorem afterAll_accounted {blockSize numBlocks : Nat} {cache : SlotBlocks}
    (accounted : cache.Accounted blockSize numBlocks) (calls : List BlockCall) :
    (afterAll cache calls).Accounted blockSize numBlocks := by
  induction calls generalizing cache with
  | nil => exact accounted
  | cons call rest ih => exact ih (after_accounted accounted call)

/-- After any calls on a fresh cache every block is free or in one table, the flags say which, and
every row holds exactly the blocks that its tokens need. A row that cannot grow leaves everything
as it was, and growing never runs into the check of a table. A slot that is there is freed without
fail, and the number of its blocks is answered. -/
theorem ownership_after_calls (blockSize numBlocks numSlots samples : Nat) (calls : List BlockCall) :
    let cache := afterAll (.fresh blockSize numBlocks numSlots samples) calls
    ((cache.pool.free ++ cache.heldBlocks).Perm (List.range numBlocks) ∧
      (∀ block, cache.pool.owns block = true ↔ block ∈ cache.heldBlocks) ∧
      ∀ slot row table, cache.table? slot row = some table →
        table.blocks.length = Size.groups table.numTokens (max blockSize 1)) ∧
    (∀ slot row count fault next,
      (∀ table, cache.table? slot row = some table → table.Storable count) →
      SlotBlocks.reserve slot row count cache = .error fault next →
      next = cache ∧ ∃ cause, fault = .blocks cause ∧ ∀ block, cause ≠ .notAllocated block) ∧
    ∀ slot, SlotBlocks.freeSlot slot cache =
      match cache.slots[slot]? with
      | some tables => .ok (SlotBlocks.held tables).length (cache.emptied slot tables)
      | none => .error (.blocks (.unknownSlot slot cache.numSlots)) cache := by
  intro cache
  have accounted : cache.Accounted blockSize numBlocks :=
    afterAll_accounted (SlotBlocks.fresh_accounted blockSize numBlocks numSlots samples) calls
  refine ⟨⟨accounted.pool.once, accounted.pool.flags,
    fun slot row table found => (accounted.snug slot row table found).exact⟩, ?_, ?_⟩
  · intro slot row count fault next storable failed
    exact accounted.reserve_refused storable failed
  · intro slot
    split
    next tables present => exact accounted.freeSlot_eq present
    next absent => exact SlotBlocks.freeSlot_absent absent

end BlockCall

end SlotServe
