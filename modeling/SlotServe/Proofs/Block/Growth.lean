import SlotServe.Proofs.Block.Room

/-! Growth of a row in parts. The blocks that the parts want add up, and a stack that is popped twice
gives what it gives at once, so that a row may grow token by token and end up with the same blocks, the
same tokens and the same free blocks as a row that grows by all of them together. -/
namespace SlotServe

theorem BlockPool.mark_append (used : Bool) (flags : Array Bool) (blocks others : List Nat) :
    mark used flags (blocks ++ others) = mark used (mark used flags blocks) others :=
  List.foldl_append ..

theorem BlockPool.taken_taken (pool : BlockPool) (first second : Nat) :
    (pool.taken first).taken second = pool.taken (first + second) := by
  simp only [taken, List.take_add, List.drop_drop, mark_append]

namespace BlockTable

theorem grown_grown (table : BlockTable) (granted later : List Nat) (first second : Nat) :
    (table.grown granted first).grown later second = table.grown (granted ++ later) (first + second) := by
  simp only [grown, List.append_assoc, Nat.add_assoc]

theorem storable_grown (table : BlockTable) (granted : List Nat) (first second : Nat) :
    (table.grown granted first).Storable second ↔ table.Storable (first + second) := by
  simp only [Storable, grown, Nat.add_assoc]

theorem Storable.fewer {table : BlockTable} {first second : Nat} (storable : table.Storable (first + second)) :
    table.Storable first :=
  Nat.lt_of_le_of_lt (Nat.mul_le_mul_right _ (Size.groups_mono (by omega) _)) storable

/-- Part by part a table wants as many blocks as for all parts together. -/
theorem Snug.wanted_parts {blockSize : Nat} {table : BlockTable} (snug : table.Snug blockSize)
    {granted : List Nat} {first : Nat} (enough : granted.length = table.wanted first) (second : Nat) :
    table.wanted first + (table.grown granted first).wanted second = table.wanted (first + second) := by
  have all := snug.wanted_add (first + second)
  have later := (snug.grown enough).wanted_add second
  have tokens : (table.grown granted first).numTokens + second = table.numTokens + (first + second) :=
    Nat.add_assoc ..
  have blocks : (table.grown granted first).blocks.length = table.blocks.length + table.wanted first := by
    rw [BlockTable.grown, List.length_append, enough]
  rw [tokens, blocks] at later
  omega

end BlockTable

namespace SlotBlocks

variable {cache after : SlotBlocks} {slot row count blockSize numBlocks : Nat} {table : BlockTable}

theorem setTable_setTable (cache : SlotBlocks) (slot row : Nat) (table other : BlockTable) :
    (cache.setTable slot row table).setTable slot row other = cache.setTable slot row other := by
  simp only [setTable, List.modify_modify_eq]
  congr 2
  exact funext fun tables => List.set_set ..

/-- A row that grew once more is the row that grew by both counts, if the blocks wanted add up. -/
theorem granting_granting {first second : Nat}
    (parts : table.wanted first + (table.grown (cache.pool.free.take (table.wanted first)) first).wanted second =
      table.wanted (first + second)) :
    (cache.granting slot row first table).granting slot row second
        (table.grown (cache.pool.free.take (table.wanted first)) first) =
      cache.granting slot row (first + second) table := by
  have pool : (cache.granting slot row first table).pool = cache.pool.taken (table.wanted first) := rfl
  have later : (cache.pool.taken (table.wanted first)).free = cache.pool.free.drop (table.wanted first) := rfl
  rw [granting, pool, BlockPool.taken_taken, BlockTable.grown_grown, later, ← List.take_add, parts]
  exact setTable_setTable { cache with pool := cache.pool.taken (table.wanted (first + second)) } ..

namespace Accounted

/-- A row grows exactly if it is there, its tokens can be stored and its blocks are free. -/
theorem reserve_ok_iff (accounted : cache.Accounted blockSize numBlocks) :
    reserve slot row count cache = .ok () after ↔
      ∃ table, cache.table? slot row = some table ∧ table.Storable count ∧
        table.wanted count ≤ cache.pool.numFree ∧ cache.granting slot row count table = after := by
  constructor
  · intro grown
    have growth := reserve_growth cache slot row count
    rw [grown] at growth
    cases growth with
    | granted table found enough _ taken =>
      obtain ⟨granted, extended, size⟩ := taken
      exact ⟨table, found, (accounted.snug slot row table found).storable_of_extend extended size, enough, rfl⟩
  · rintro ⟨table, found, storable, enough, rfl⟩
    have snug := accounted.snug slot row table found
    exact (accounted.reserve_eq found (storable.bounded snug numBlocks)).trans (if_pos enough)

theorem reserve_add (accounted : cache.Accounted blockSize numBlocks) (first second : Nat) :
    (∃ middle, reserve slot row first cache = .ok () middle ∧ reserve slot row second middle = .ok () after) ↔
      reserve slot row (first + second) cache = .ok () after := by
  have step {table : BlockTable} (found : cache.table? slot row = some table)
      (enough : table.wanted first ≤ cache.pool.numFree) :=
    (accounted.snug slot row table found).wanted_parts (List.length_take_of_le enough) second
  constructor
  · rintro ⟨middle, grown, grownAgain⟩
    obtain ⟨table, found, -, enough, rfl⟩ := accounted.reserve_ok_iff.mp grown
    obtain ⟨next, foundNext, storable, enoughNext, rfl⟩ :=
      (accounted.granting found enough).reserve_ok_iff.mp grownAgain
    obtain rfl := Option.some.inj ((table?_granting found).symm.trans foundNext)
    have parts := step found enough
    rw [numFree_granting] at enoughNext
    exact accounted.reserve_ok_iff.mpr ⟨table, found, (table.storable_grown _ _ _).mp storable, by omega,
      (granting_granting parts).symm⟩
  · intro grown
    obtain ⟨table, found, storable, enough, rfl⟩ := accounted.reserve_ok_iff.mp grown
    have fewer : table.wanted first ≤ table.wanted (first + second) := by
      have some := (accounted.snug slot row table found).wanted_add first
      have all := (accounted.snug slot row table found).wanted_add (first + second)
      have mono := Size.groups_mono (by omega : table.numTokens + first ≤ table.numTokens + (first + second))
        (max blockSize 1)
      omega
    have parts := step found (Nat.le_trans fewer enough)
    refine ⟨_, accounted.reserve_ok_iff.mpr ⟨table, found, storable.fewer, Nat.le_trans fewer enough, rfl⟩, ?_⟩
    refine (accounted.granting found (Nat.le_trans fewer enough)).reserve_ok_iff.mpr
      ⟨_, table?_granting found, (table.storable_grown _ _ _).mpr storable, ?_, granting_granting parts⟩
    rw [numFree_granting]
    omega

/-- Induction on the parts: each of them joins the first. -/
theorem reserve_total (accounted : cache.Accounted blockSize numBlocks) (count : Nat) (counts : List Nat) :
    forM (count :: counts) (reserve slot row) cache = .ok () after ↔
      reserve slot row (Size.total (count :: counts)) cache = .ok () after := by
  induction counts generalizing count cache with
  | nil =>
    have alone : forM [count] (reserve slot row) cache = reserve slot row count cache := by
      rw [List.forM_cons, List.forM_nil, bind_pure]
    rw [alone]
    rfl
  | cons next counts ih =>
    have sum : Size.total (count :: next :: counts) = count + Size.total (next :: counts) := rfl
    rw [sum, ← accounted.reserve_add]
    constructor
    · intro grown
      obtain ⟨_, middle, first, rest⟩ := bind_links grown
      have kept := reserve_keeps slot row count cache accounted
      rw [first] at kept
      exact ⟨middle, first, (ih kept next).mp rest⟩
    · rintro ⟨middle, first, rest⟩
      have kept := reserve_keeps slot row count cache accounted
      rw [first] at kept
      exact (bind_ok _ first).trans ((ih kept next).mpr rest)

end Accounted

end SlotBlocks

namespace BlockCall

/-- After any calls on a fresh cache, growing a row twice succeeds exactly if growing it by the sum does,
and both ways leave the same cache: the row has the same blocks in the same order and as many tokens,
and the same blocks are free in the same order. So does growing it in any number of parts, and in
particular token by token. -/
theorem reserve_in_parts (blockSize numBlocks numSlots samples : Nat) (calls : List BlockCall) (slot row : Nat) :
    let cache := afterAll (.fresh blockSize numBlocks numSlots samples) calls
    (∀ first second after,
      (∃ middle, SlotBlocks.reserve slot row first cache = .ok () middle ∧
        SlotBlocks.reserve slot row second middle = .ok () after) ↔
      SlotBlocks.reserve slot row (first + second) cache = .ok () after) ∧
    ∀ count counts after, forM (count :: counts) (SlotBlocks.reserve slot row) cache = .ok () after ↔
      SlotBlocks.reserve slot row (Size.total (count :: counts)) cache = .ok () after := by
  intro cache
  have accounted : cache.Accounted blockSize numBlocks :=
    afterAll_accounted (SlotBlocks.fresh_accounted blockSize numBlocks numSlots samples) calls
  exact ⟨fun first second _ => accounted.reserve_add first second,
    fun count counts _ => accounted.reserve_total count counts⟩

end BlockCall

end SlotServe
