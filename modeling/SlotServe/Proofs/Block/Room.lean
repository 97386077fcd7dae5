import SlotServe.Proofs.Block.Liveness

/-! Room in the cache. Growing a row fails for want of blocks exactly when its table wants more than
are free, and growing all rows of an empty slot exactly when they want more together. Where no table
holds more than its share of the blocks, each of them can grow up to that share. -/
namespace SlotServe

theorem Size.groups_mono {count more : Nat} (fewer : count ≤ more) (size : Nat) :
    groups count size ≤ groups more size :=
  Nat.div_le_div_right (by omega)

/-- The tokens after `count` more can be counted, and so can the room for them if the blocks suffice. -/
structure BlockTable.Countable (numBlocks : Nat) (table : BlockTable) (count : Nat) : Prop where
  sum : table.numTokens + count < Size.limit
  whole : Size.groups (table.numTokens + count) table.blockSize ≤ numBlocks → table.Storable count

theorem BlockTable.Storable.bounded {table : BlockTable} {count blockSize : Nat} (storable : table.Storable count)
    (snug : table.Snug blockSize) (numBlocks : Nat) : table.Countable numBlocks count :=
  ⟨snug.countable storable, fun _ => storable⟩

theorem Fault.isOutOfBlocks_iff {fault : Fault} :
    fault.isOutOfBlocks = true ↔ ∃ requested available, fault = .blocks (.outOfBlocks requested available) := by
  constructor
  · intro lacking
    unfold isOutOfBlocks at lacking
    split at lacking
    next requested available => exact ⟨requested, available, rfl⟩
    next => cases lacking
  · rintro ⟨requested, available, rfl⟩
    rfl

def Hinges {σ α : Type} (room : Prop) (ended : EStateM.Result Fault σ α) : Prop :=
  (room ∧ ∃ value after, ended = .ok value after) ∨
    (¬room ∧ ∃ fault after, ended = .error fault after ∧ fault.isOutOfBlocks = true)

namespace SlotBlocks

variable {cache after : SlotBlocks} {slot row count blockSize numBlocks numSlots samples most : Nat}
  {table : BlockTable}

theorem Accounted.held_le (accounted : cache.Accounted blockSize numBlocks)
    (found : cache.table? slot row = some table) : table.blocks.length + cache.pool.numFree ≤ numBlocks := by
  obtain ⟨rest, held, -⟩ := heldBlocks_setTable found
  have lengths := held.length_eq
  have total := accounted.pool.numFree_add
  rw [List.length_append] at lengths
  omega

theorem Accounted.reserve_eq (accounted : cache.Accounted blockSize numBlocks)
    (found : cache.table? slot row = some table) (countable : table.Countable numBlocks count) :
    reserve slot row count cache =
      if table.wanted count ≤ cache.pool.numFree then .ok () (cache.granting slot row count table)
      else .error (.blocks (.outOfBlocks (table.wanted count) cache.pool.numFree)) cache := by
  have snug := accounted.snug slot row table found
  have growth := reserve_growth cache slot row count
  generalize reserve slot row count cache = ended at growth
  cases growth with
  | noSlot absent => simp [table?, absent] at found
  | noRow tables present absent => simp [table?, present, absent] at found
  | uncounted other cause same broken =>
    cases found.symm.trans same
    rw [snug.blocksNeeded_eq countable.sum] at broken
    cases broken
  | refused other same short =>
    cases found.symm.trans same
    rw [if_neg (Nat.not_le.mpr short)]
  | granted other same enough =>
    cases found.symm.trans same
    rw [if_pos enough]
  | overrun other cause same enough broken =>
    cases found.symm.trans same
    obtain ⟨granted, broken, size⟩ := broken
    have held := accounted.held_le found
    have grows := snug.wanted_add count
    rw [← snug.sized] at grows
    rw [snug.extend_ok (countable.whole (by omega)) size] at broken
    cases broken

theorem numFree_granting (cache : SlotBlocks) (slot row count : Nat) (table : BlockTable) :
    (cache.granting slot row count table).pool.numFree = cache.pool.numFree - table.wanted count :=
  List.length_drop ..

theorem Accounted.reserveRows_room {rows : Nat} (accounted : cache.Accounted blockSize numBlocks)
    (shaped : cache.Shaped numSlots samples) (inside : slot < numSlots) (within : row + rows ≤ samples)
    (storable : ∀ table : BlockTable, table.Snug blockSize → table.numTokens = 0 → table.Storable count)
    (vacant : ∀ place table, row ≤ place → cache.table? slot place = some table → table.numTokens = 0) :
    Hinges (rows * Size.groups count (max blockSize 1) ≤ cache.pool.numFree)
      (reserveRows slot count row rows cache) := by
  induction rows generalizing row cache with
  | zero => exact .inl ⟨by omega, (), cache, rfl⟩
  | succ rows ih =>
    obtain ⟨table, found⟩ := shaped.found inside (by omega : row < samples)
    have snug := accounted.snug slot row table found
    have none := vacant row table (Nat.le_refl row) found
    have wants := snug.wanted_vacant none count
    have first := accounted.reserve_eq found ((storable table snug none).bounded snug numBlocks)
    rw [wants] at first
    rw [Nat.succ_mul]
    by_cases enough : Size.groups count (max blockSize 1) ≤ cache.pool.numFree
    · rw [if_pos enough] at first
      have later := shaped_reserve slot row count cache shaped
      have framed (place : Nat) (other : ¬(slot = slot ∧ place = row)) :
          (left (reserve slot row count cache)).table? slot place = cache.table? slot place := table?_reserve other
      rw [first] at later framed
      have idle (place : Nat) (table : BlockTable) (above : row + 1 ≤ place)
          (found : (cache.granting slot row count _).table? slot place = some table) : table.numTokens = 0 :=
        vacant place table (by omega) ((framed place (by omega)).symm.trans found)
      have rest := ih (accounted.granting found (by omega)) later (by omega) idle
      have links : reserveRows slot count row (rows + 1) cache =
          reserveRows slot count (row + 1) rows (cache.granting slot row count table) := bind_ok _ first
      rw [numFree_granting, wants] at rest
      rw [links]
      exact rest.imp (And.imp_left fun room => by omega) (And.imp_left fun short => by omega)
    · rw [if_neg enough] at first
      exact .inr ⟨by omega, _, _, bind_error _ first, rfl⟩

/-- The rows of a vacant slot that grew by the same count took as many blocks each. -/
theorem Accounted.reserveRows_taken {rows : Nat} (accounted : cache.Accounted blockSize numBlocks)
    (vacant : ∀ place table, row ≤ place → cache.table? slot place = some table → table.numTokens = 0)
    (ok : reserveRows slot count row rows cache = .ok () after) :
    after.pool.numFree + rows * Size.groups count (max blockSize 1) = cache.pool.numFree ∧
      (rows ≠ 0 → Size.groups count (max blockSize 1) * max blockSize 1 < Size.limit) := by
  induction rows generalizing row cache with
  | zero =>
    cases ok
    exact ⟨by omega, fun some => absurd rfl some⟩
  | succ rows ih =>
    obtain ⟨_, between, grown, rest⟩ := bind_links ok
    have growth := reserve_growth cache slot row count
    rw [grown] at growth
    cases growth with
    | granted table found enough _ taken =>
      obtain ⟨granted, extended, size⟩ := taken
      have snug := accounted.snug slot row table found
      have none := vacant row table (Nat.le_refl row) found
      have wants := snug.wanted_vacant none count
      have storable : Size.groups (table.numTokens + count) table.blockSize * table.blockSize < Size.limit :=
        snug.storable_of_extend extended size
      rw [none, Nat.zero_add, snug.sized] at storable
      have later (place : Nat) (other : BlockTable) (above : row + 1 ≤ place)
          (found : (cache.granting slot row count table).table? slot place = some other) : other.numTokens = 0 := by
        have kept : (left (reserve slot row count cache)).table? slot place = cache.table? slot place :=
          table?_reserve (by omega)
        rw [grown] at kept
        exact vacant place other (by omega) (kept.symm.trans found)
      obtain ⟨taken, -⟩ := ih (accounted.granting found enough) later rest
      rw [numFree_granting, wants] at taken
      rw [wants] at enough
      refine ⟨?_, fun _ => storable⟩
      rw [Nat.succ_mul]
      omega

def Capped (most : Nat) (cache : SlotBlocks) : Prop :=
  ∀ slot row table, cache.table? slot row = some table → table.blocks.length ≤ most

theorem Capped.held_le (capped : cache.Capped most) (shaped : cache.Shaped numSlots samples) :
    cache.heldBlocks.length ≤ numSlots * (samples * most) := by
  rw [← shaped.height]
  refine length_flatMap_le fun tables member => ?_
  obtain ⟨slot, present⟩ := List.mem_iff_getElem?.mp member
  rw [← shaped.uniform tables member]
  refine length_flatMap_le fun table within => ?_
  obtain ⟨row, located⟩ := List.mem_iff_getElem?.mp within
  exact capped slot row table (table?_eq_some.mpr ⟨tables, present, located⟩)

theorem Capped.setTable (capped : cache.Capped most) (short : table.blocks.length ≤ most) (slot row : Nat) :
    (cache.setTable slot row table).Capped most := by
  intro slot' row' other found
  rw [table?_setTable] at found
  split at found
  next =>
    obtain ⟨_, -, rfl⟩ := Option.map_eq_some_iff.mp found
    exact short
  next => exact capped slot' row' other found

def full (most : Nat) : BlockTable := ⟨List.replicate most 0, 0, 0⟩

theorem shaped_setTable (shaped : cache.Shaped numSlots samples) (slot row : Nat) (table : BlockTable) :
    (cache.setTable slot row table).Shaped numSlots samples :=
  shaped.modify slot fun _ => List.length_set ..

section

variable (capped : cache.Capped most) (accounted : cache.Accounted blockSize numBlocks)
  (shaped : cache.Shaped numSlots samples) (ample : numSlots * (samples * most) ≤ numBlocks)

include capped accounted shaped ample

/-- With a full share of the blocks for each row, every row can grow up to its share. -/
theorem Capped.room (found : cache.table? slot row = some table) :
    most ≤ table.blocks.length + cache.pool.numFree := by
  -- The other rows leave a full share even if this row had one.
  obtain ⟨rest, before, after⟩ := heldBlocks_setTable found
  have short : (full most).blocks.length ≤ most := by simp [full]
  have filled := (capped.setTable short slot row).held_le (shaped_setTable shaped slot row (full most))
  have total := accounted.pool.numFree_add
  rw [(after (full most)).length_eq, List.length_append, full, List.length_replicate] at filled
  rw [before.length_eq, List.length_append] at total
  omega

theorem Capped.slot_room (inside : slot < numSlots) (idle : ∀ row, cache.isLive slot row = false) :
    samples * most ≤ cache.pool.numFree := by
  obtain ⟨tables, present, -⟩ := shaped.present inside
  obtain ⟨rest, before, after⟩ := flatMap_set_perm held present
  let filled : SlotBlocks := ⟨cache.pool, cache.slots.set slot (List.replicate samples (full most))⟩
  have bounded : filled.Capped most := by
    intro slot' row' other found
    obtain ⟨tables', present', located⟩ := table?_eq_some.mp found
    rcases List.mem_or_eq_of_mem_set (List.mem_of_getElem? present') with old | rfl
    · obtain ⟨place, there⟩ := List.mem_iff_getElem?.mp old
      exact capped place row' other (table?_eq_some.mpr ⟨tables', there, located⟩)
    · obtain rfl := List.eq_of_mem_replicate (List.mem_of_getElem? located)
      simp [full]
  have shares : (held (List.replicate samples (full most))).length = samples * most := by
    simp [held, List.length_flatMap, full]
  have within := bounded.held_le (shaped.set slot List.length_replicate)
  have nothing : held tables = [] := List.flatMap_eq_nil_iff.mpr (held_of_idle present idle)
  have total := accounted.pool.numFree_add
  rw [heldBlocks, before.length_eq, nothing, List.nil_append] at total
  rw [heldBlocks, (after _).length_eq, List.length_append, shares] at within
  omega

theorem Capped.reserve_ok (found : cache.table? slot row = some table) (countable : table.Countable numBlocks count)
    (short : Size.groups (table.numTokens + count) (max blockSize 1) ≤ most) :
    reserve slot row count cache = .ok () (cache.granting slot row count table) ∧
      (cache.granting slot row count table).Capped most := by
  have grows := (accounted.snug slot row table found).wanted_add count
  have room := capped.room accounted shaped ample found
  have enough : table.wanted count ≤ cache.pool.numFree := by omega
  refine ⟨(accounted.reserve_eq found countable).trans (if_pos enough), ?_⟩
  have unchanged : Capped most ⟨cache.pool.taken (table.wanted count), cache.slots⟩ := capped
  refine unchanged.setTable ?_ slot row
  have taken : (cache.pool.free.take (table.wanted count)).length = table.wanted count :=
    List.length_take_of_le enough
  rw [BlockTable.grown, List.length_append, taken]
  omega

end

end SlotBlocks

end SlotServe
