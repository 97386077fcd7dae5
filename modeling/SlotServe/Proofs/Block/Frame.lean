import SlotServe.Proofs.Block.Ownership

/-! What growing a row and freeing a slot leave alone. Growth changes one table, and freeing empties
the tables of one slot, whether or not the call succeeds. -/
namespace SlotServe.SlotBlocks

variable {cache : SlotBlocks} {slot row count : Nat}

theorem slots_granting {table : BlockTable} (found : cache.table? slot row = some table) :
    (cache.granting slot row count table).slots = cache.slots.modify slot
      (·.modify row (·.grown (cache.pool.free.take (table.wanted count)) count)) := by
  obtain ⟨tables, present, located⟩ := table?_eq_some.mp found
  simp only [granting, setTable, modify_of_getElem? present, modify_of_getElem? located]

theorem slots_reserve (cache : SlotBlocks) (slot row count : Nat) :
    ∃ granted extra, (left (reserve slot row count cache)).slots =
      cache.slots.modify slot (·.modify row (·.grown granted extra)) := by
  have unchanged : cache.slots = cache.slots.modify slot (·.modify row (·.grown [] 0)) := by
    have same : (fun table : BlockTable => table.grown [] 0) = id := funext BlockTable.grown_nil
    have rows : (fun tables : List BlockTable => tables.modify row id) = id :=
      funext fun tables => List.modify_id row tables
    rw [same, rows, List.modify_id]
  have growth := reserve_growth cache slot row count
  generalize reserve slot row count cache = ended at growth
  cases growth with
  | noSlot | noRow | uncounted | refused => exact ⟨[], 0, unchanged⟩
  | granted table found => exact ⟨_, _, slots_granting found⟩
  | overrun table cause found => exact ⟨_, _, slots_granting found⟩

theorem slots_freeSlot (cache : SlotBlocks) (slot : Nat) :
    (left (freeSlot slot cache)).slots = cache.slots.modify slot (·.map BlockTable.cleared) := by
  cases present : cache.slots[slot]? with
  | none =>
    rw [freeSlot_absent present, modify_of_absent present]
    rfl
  | some tables =>
    rw [modify_of_getElem? present]
    simp only [freeSlot, rows, present]
    split
    · rfl
    · split <;> rfl

theorem isLive_reserve {after : SlotBlocks} (some : count ≠ 0)
    (ok : reserve slot row count cache = .ok () after) : after.isLive slot row = true := by
  have growth := reserve_growth cache slot row count
  rw [ok] at growth
  cases growth with
  | granted table found enough sized =>
    have size : (cache.pool.free.take (table.wanted count)).length = table.wanted count :=
      List.length_take_of_le enough
    have blocks := BlockTable.grown_ne_nil some (sized some) size
    simp only [isLive, granting, table?_setTable, and_self, if_true]
    have found : ({ cache with pool := cache.pool.taken (table.wanted count) } : SlotBlocks).table?
        slot row = Option.some table := found
    simp [found, BlockTable.isEmpty, blocks]

theorem table?_reserve {slot' row' : Nat} (other : ¬(slot' = slot ∧ row' = row)) :
    (left (reserve slot row count cache)).table? slot' row' = cache.table? slot' row' := by
  have growth := reserve_growth cache slot row count
  generalize reserve slot row count cache = ended at growth
  cases growth with
  | noSlot | noRow | uncounted | refused => rfl
  | granted table found =>
    simp only [left, granting, table?_setTable, if_neg other]
    rfl
  | overrun table cause found =>
    simp only [left, granting, table?_setTable, if_neg other]
    rfl

def SameBut (slot : Nat) (before after : SlotBlocks) : Prop :=
  after.slots.modify slot (·.map BlockTable.cleared) =
    before.slots.modify slot (·.map BlockTable.cleared)

theorem sameBut_reserve (before : SlotBlocks) (slot row count : Nat) :
    Keeps (SameBut slot before) (reserve slot row count) := by
  intro cache same
  obtain ⟨granted, extra, slots⟩ := slots_reserve cache slot row count
  have emptied (tables : List BlockTable) :
      (tables.modify row (·.grown granted extra)).map BlockTable.cleared =
        tables.map BlockTable.cleared :=
    map_modify (fun table => BlockTable.cleared_grown table granted extra) tables row
  unfold SameBut at same ⊢
  rw [slots, List.modify_modify_eq, ← same]
  congr 1
  exact funext emptied

theorem cleared_twice :
    (fun tables : List BlockTable => (tables.map BlockTable.cleared).map BlockTable.cleared) =
      fun tables => tables.map BlockTable.cleared := by
  funext tables
  rw [List.map_map]
  rfl

theorem sameBut_of_cleared {after : SlotBlocks} (slots : after.slots = cache.slots.modify slot (·.map BlockTable.cleared)) :
    SameBut slot cache after := by
  unfold SameBut
  rw [slots, List.modify_modify_eq]
  exact congrArg _ cleared_twice

theorem sameBut_freeSlot (before : SlotBlocks) (slot : Nat) :
    Keeps (SameBut slot before) (freeSlot slot) := by
  intro cache same
  unfold SameBut at same ⊢
  rw [slots_freeSlot, List.modify_modify_eq, ← same]
  exact congrArg _ cleared_twice

theorem SameBut.tables {before after : SlotBlocks} (same : SameBut slot before after) {other : Nat}
    (different : other ≠ slot) : after.slots[other]? = before.slots[other]? := by
  have tables := congrArg (·[other]?) same
  simpa only [List.getElem?_modify, if_neg (Ne.symm different), id_map'] using tables

theorem SameBut.table? {before after : SlotBlocks} (same : SameBut slot before after) {other : Nat}
    (different : other ≠ slot) (row : Nat) : after.table? other row = before.table? other row := by
  rw [SlotBlocks.table?, SlotBlocks.table?, same.tables different]

theorem isLive_eq_false {tables : List BlockTable} (present : cache.slots[slot]? = some tables)
    (empty : ∀ table ∈ tables, table.blocks = []) : cache.isLive slot row = false := by
  cases located : tables[row]? with
  | none => simp [isLive, table?, present, located]
  | some table =>
    have none := empty table (List.mem_of_getElem? located)
    simp [isLive, table?, present, located, BlockTable.isEmpty, none]

theorem isLive_modify_cleared {after : SlotBlocks} (tables : after.slots = cache.slots.modify slot (·.map BlockTable.cleared))
    (row : Nat) : after.isLive slot row = false := by
  cases present : cache.slots[slot]? with
  | none =>
    have absent : after.slots[slot]? = none := by rw [tables, modify_of_absent present, present]
    simp [isLive, table?, absent]
  | some rows =>
    have emptied : after.slots[slot]? = some (rows.map BlockTable.cleared) := by
      simp [tables, present]
    refine isLive_eq_false emptied fun table member => ?_
    obtain ⟨_, _, rfl⟩ := List.mem_map.mp member
    rfl

def Shaped (numSlots samples : Nat) (cache : SlotBlocks) : Prop := Grid numSlots samples cache.slots

variable {numSlots samples : Nat}

theorem Shaped.found (shaped : cache.Shaped numSlots samples) (slotInside : slot < numSlots)
    (rowInside : row < samples) : ∃ table, cache.table? slot row = some table :=
  Grid.entry shaped slotInside rowInside

theorem fresh_shaped (blockSize numBlocks numSlots samples : Nat) :
    (fresh blockSize numBlocks numSlots samples).Shaped numSlots samples := by
  have grid := Grid.replicate numSlots (List.replicate samples (BlockTable.ofBlockSize blockSize))
  rwa [List.length_replicate] at grid

theorem shaped_reserve (slot row count : Nat) :
    Keeps (Shaped numSlots samples) (reserve slot row count) := by
  intro cache shaped
  obtain ⟨granted, extra, slots⟩ := slots_reserve cache slot row count
  unfold Shaped at shaped ⊢
  rw [slots]
  exact shaped.modify slot fun tables => List.length_modify ..

theorem shaped_freeSlot (slot : Nat) : Keeps (Shaped numSlots samples) (freeSlot slot) := by
  intro cache shaped
  unfold Shaped at shaped ⊢
  rw [slots_freeSlot]
  exact shaped.modify slot fun tables => List.length_map _

theorem reserveRows_keeps {Holds : SlotBlocks → Prop} {slot count : Nat}
    (reserve : ∀ row, Keeps Holds (SlotBlocks.reserve slot row count)) (row rows : Nat) :
    Keeps Holds (reserveRows slot count row rows) := by
  induction rows generalizing row with
  | zero => exact keeps_pure ()
  | succ rows ih => exact keeps_bind (reserve row) fun _ => ih (row + 1)

end SlotServe.SlotBlocks
