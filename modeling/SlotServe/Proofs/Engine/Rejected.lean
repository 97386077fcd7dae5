import SlotServe.Proofs.Engine.Reach

/-! Inserts that fail. An insert that is refused for want of blocks gives back what it had reserved,
and with it whatever the slot held before; any other refusal comes before the cache is touched. -/
namespace SlotServe

structure SlotBlocks.SameHoldings (before after : SlotBlocks) : Prop where
  tables : after.slots = before.slots
  free : after.pool.free.Perm before.pool.free

namespace SlotBlocks

variable {cache after : SlotBlocks} {slot row count : Nat} {fault : Fault}

theorem reserve_failed {table : BlockTable} (found : cache.table? slot row = some table)
    (failed : reserve slot row count cache = .error fault after) :
    (∃ cause, fault = .defect cause) ∨ fault.isOutOfBlocks = true := by
  have growth := reserve_growth cache slot row count
  rw [failed] at growth
  obtain ⟨tables, present, located⟩ := table?_eq_some.mp found
  cases growth with
  | noSlot absent => simp [present] at absent
  | noRow tables' present' absent =>
    obtain rfl : tables = tables' := Option.some.inj (present.symm.trans present')
    simp [located] at absent
  | uncounted _ cause => exact .inl ⟨cause, rfl⟩
  | refused => exact .inr rfl
  | overrun _ cause => exact .inl ⟨cause, rfl⟩

theorem reserveRows_failed {numSlots samples rows : Nat} (shaped : cache.Shaped numSlots samples)
    (slotInside : slot < numSlots) (rowsInside : row + rows ≤ samples)
    (failed : reserveRows slot count row rows cache = .error fault after) :
    (∃ cause, fault = .defect cause) ∨ fault.isOutOfBlocks = true := by
  induction rows generalizing row cache with
  | zero => cases failed
  | succ rows ih =>
    rcases bind_faults failed with first | ⟨_, middle, grown, rest⟩
    · obtain ⟨table, found⟩ := shaped.found slotInside (by omega : row < samples)
      exact reserve_failed found first
    · have shapedMiddle := shaped_reserve slot row count cache shaped
      rw [grown] at shapedMiddle
      exact ih shapedMiddle (by omega) rest

theorem Accounted.modify_cleared {blockSize numBlocks : Nat} (accounted : cache.Accounted blockSize numBlocks)
    (idle : ∀ row, cache.isLive slot row = false) :
    cache.slots.modify slot (·.map BlockTable.cleared) = cache.slots := by
  cases present : cache.slots[slot]? with
  | none => exact modify_of_absent present _
  | some tables =>
    have same : tables.map BlockTable.cleared = tables := by
      refine (List.map_congr_left fun table member => ?_).trans (List.map_id tables)
      obtain ⟨row, inside, rfl⟩ := List.mem_iff_getElem.mp member
      have found : cache.table? slot row = some tables[row] :=
        table?_eq_some.mpr ⟨tables, present, List.getElem?_eq_getElem inside⟩
      have nothing := idle row
      simp only [isLive, found, Option.any_some, Bool.not_eq_false', BlockTable.isEmpty,
        List.isEmpty_iff] at nothing
      exact (accounted.snug slot row _ found).cleared_of_empty nothing
    rw [modify_of_getElem? present, same]
    exact List.ext_getElem? fun i => by
      by_cases here : slot = i
      · subst i
        rw [present, List.getElem?_set_self (List.getElem?_eq_some_iff.mp present).1]
      · rw [List.getElem?_set_ne here]

theorem SameHoldings.alike (same : cache.SameHoldings after) : after.Alike cache :=
  ⟨congrArg _ same.tables, same.free.length_eq⟩

/-- Caches with the same tables, both accounted for, have the same free blocks. -/
theorem Accounted.sameHoldings {blockSize numBlocks : Nat} (before : cache.Accounted blockSize numBlocks)
    (later : after.Accounted blockSize numBlocks) (tables : after.slots = cache.slots) :
    cache.SameHoldings after := by
  have held : after.heldBlocks = cache.heldBlocks := by rw [heldBlocks, heldBlocks, tables]
  have all := later.pool.once.trans before.pool.once.symm
  rw [held] at all
  exact ⟨tables, (List.perm_append_right_iff _).mp all⟩

end SlotBlocks

namespace EngineSettings

variable {settings : EngineSettings} {cache after : SlotBlocks} {slot count : Nat} {fault : Fault}
  {start : Prefilled} {state : DecodeState} {requestId : Option RequestId}

/-- The slot, and no other, lost its blocks. Where the blocks are accounted for, it lost them to an
insert for which the cache had no room. -/
def Vacated (settings : EngineSettings) (slot : Nat) (cache after : SlotBlocks) (fault : Fault) : Prop :=
  after.slots = cache.slots.modify slot (·.map BlockTable.cleared) ∧
    (settings.Sound cache → fault.isOutOfBlocks = true)

theorem reserveSlot_failed (inside : settings.Sound cache → slot < settings.maxConcurrentDecodes)
    (failed : settings.reserveSlot slot count cache = .error fault after) :
    (∃ cause, fault = .defect cause) ∨ settings.Vacated slot cache after fault := by
  unfold EngineSettings.reserveSlot at failed
  split at failed
  next => cases failed
  next cause between _ =>
    cases failed
    exact .inl ⟨cause, rfl⟩
  next cause between proper grown =>
    have kept : KeptAt slot settings.Sound := sound_kept slot
    have sameBut := SlotBlocks.reserveRows_keeps (SlotBlocks.sameBut_reserve cache slot · count) 0
      settings.samplesPerSlot cache rfl
    have later := SlotBlocks.reserveRows_keeps (kept.reserve · count) 0 settings.samplesPerSlot cache
    rw [grown] at sameBut later
    have slots := (SlotBlocks.slots_freeSlot between slot).trans sameBut
    have freed (sound : settings.Sound cache) :
        ∃ count emptied, SlotBlocks.freeSlot slot between = .ok count emptied := by
      have sound : settings.Sound between := later sound
      obtain ⟨tables, present, _⟩ := sound.shaped.present (inside ‹_›)
      exact ⟨_, _, sound.accounted.freeSlot_eq present⟩
    split at failed
    next undone =>
      cases failed
      rw [undone] at slots
      refine .inr ⟨slots, fun sound => ?_⟩
      rcases SlotBlocks.reserveRows_failed sound.shaped (inside sound) (by omega) grown with
        ⟨cause, rfl⟩ | full
      · exact absurd rfl (proper cause)
      · exact full
    next stuck =>
      cases failed
      rw [stuck] at slots
      refine .inr ⟨slots, fun sound => ?_⟩
      obtain ⟨_, _, undone⟩ := freed sound
      rw [stuck] at undone
      cases undone

theorem seedRows_failed {row rows : Nat} (failed : seedRows start requestId row rows = .error fault) :
    ∃ cause, fault = .defect cause := by
  induction rows generalizing row with
  | zero => cases failed
  | succ rows ih =>
    unfold seedRows at failed
    cases seeded : DecodeRow.seeded start (if start.firstTokens.length = 1 then 0 else row) with
    | error cause =>
      rw [seeded] at failed
      cases failed
      unfold DecodeRow.seeded at seeded
      split at seeded
      · cases seeded
      · exact ⟨_, (Except.error.inj seeded).symm⟩
    | ok first =>
      cases following : seedRows start requestId (row + 1) rows with
      | error cause =>
        rw [seeded, following] at failed
        cases failed
        exact ih following
      | ok rest =>
        rw [seeded, following] at failed
        cases failed

theorem placeRows_failed (inside : settings.Sound cache → slot < settings.maxConcurrentDecodes)
    (failed : settings.placeRows start state slot requestId cache = .error fault after) :
    (∃ cause, fault = .defect cause) ∨ settings.Vacated slot cache after fault := by
  rcases bind_faults failed with counting | ⟨length, _, counted, reserving⟩
  · obtain ⟨uncounted, -⟩ := answer_fault counting
    unfold orDefect at uncounted
    split at uncounted
    · cases uncounted
    · exact .inl ⟨_, (Except.error.inj uncounted).symm⟩
  · obtain ⟨-, rfl⟩ := answer_success counted
    rcases bind_faults reserving with short | ⟨_, between, reserved, seeding⟩
    · exact reserveSlot_failed inside short
    · rcases bind_faults seeding with seeding | ⟨rows, _, seeded, done⟩
      · exact .inl (seedRows_failed (answer_fault seeding).1)
      · cases done

/-- What an insert that failed did to the cache: nothing, or the slot lost its blocks, unless a defect
stopped it. -/
theorem insertRows_failed (failed : settings.insertRows start state slot requestId cache = .error fault after) :
    (∃ cause, fault = .defect cause) ∨ (after = cache ∧ fault.isOutOfBlocks = false) ∨
      settings.Vacated slot cache after fault := by
  rw [insertRows_eq] at failed
  split at failed
  next fits =>
    split at failed
    next absent =>
      cases failed
      exact .inr (.inl ⟨rfl, rfl⟩)
    next tables present =>
      have inside {cache : SlotBlocks} (slots : slot < cache.slots.length) (sound : settings.Sound cache) :
          slot < settings.maxConcurrentDecodes := by
        rwa [← sound.shaped.height]
      have slotInside := (List.getElem?_eq_some_iff.mp present).1
      split at failed
      next occupied =>
        have emptied := SlotBlocks.slots_freeSlot cache slot
        rcases bind_faults failed with stuck | ⟨freed, between, freeing, placing⟩
        · rw [stuck] at emptied
          refine .inr (.inr ⟨emptied, fun sound => ?_⟩)
          rw [sound.accounted.freeSlot_eq present] at stuck
          cases stuck
        · rw [freeing] at emptied
          have kept : KeptAt slot settings.Sound := sound_kept slot
          have soundBetween := kept.freeSlot cache
          rw [freeing] at soundBetween
          have slots : slot < between.slots.length := by
            rw [show between.slots = _ from emptied, List.length_modify]
            exact slotInside
          refine (placeRows_failed (inside slots) placing).imp_right fun vacated => .inr ?_
          refine ⟨vacated.1.trans ?_, fun sound => vacated.2 (soundBetween sound)⟩
          -- Emptying the slot a second time changes nothing.
          rw [show between.slots = _ from emptied, List.modify_modify_eq]
          exact congrArg (cache.slots.modify slot) SlotBlocks.cleared_twice
      next idle => exact (placeRows_failed (inside slotInside) failed).imp_right .inr
  next misfit =>
    cases failed
    exact .inr (.inl ⟨rfl, rfl⟩)

/-- What a refused insert did to the cache when it hands the decode state back, which is the one that
came in. -/
theorem tryInsert_refused {returned : DecodeState}
    (refused : settings.tryInsertRows start state slot requestId cache =
      .error ⟨fault, some returned⟩ after) :
    returned = state ∧
      ((after = cache ∧ fault.isOutOfBlocks = false) ∨ settings.Vacated slot cache after fault) := by
  unfold tryInsertRows at refused
  dsimp only at refused
  split at refused
  next => cases refused
  next => cases refused
  next cause between proper ended =>
    cases refused
    refine ⟨rfl, ?_⟩
    rcases bind_faults ended with outside | ⟨_, _, inside, failed⟩
    · obtain ⟨wrong, rfl⟩ := answer_fault outside
      unfold checkSlot at wrong
      split at wrong
      · cases wrong
      · cases wrong
        exact .inl ⟨rfl, rfl⟩
    · obtain ⟨-, rfl⟩ := answer_success inside
      rcases insertRows_failed failed with ⟨cause, rfl⟩ | unchanged
      · exact absurd rfl (proper cause)
      · exact unchanged

/-- A refused insert that hands the decode state back hands back the one that came in. The cache is
as it was, and the next decode step ends as it would have without the insert, unless blocks were
lacking and the slot was occupied. Then that slot, and no other, has lost all its blocks. -/
theorem rejected_insert_untouched_iff {V : Type} {build : VocabularySource → Except Fault V}
    (reached : (settings.executor build).Reaches settings.freshCache cache) {returned : DecodeState}
    (refused : (settings.executor build).tryInsert start state slot requestId cache =
      .error ⟨fault, some returned⟩ after) :
    returned = state ∧
      (cache.SameHoldings after ↔
        ¬(fault.isOutOfBlocks = true ∧ ∃ row, cache.isLive slot row = true)) ∧
      (cache.SameHoldings after → ∀ table sampler,
        SameEnd SlotBlocks.Alike ((settings.executor build).generate table returned sampler after)
          ((settings.executor build).generate table state sampler cache)) ∧
      (¬cache.SameHoldings after →
        after.slots = cache.slots.modify slot (·.map BlockTable.cleared) ∧
          ∀ row, after.isLive slot row = false) := by
  have sound := sound_of_reaches reached
  have later : settings.Sound after := by
    have reached := Executor.Reaches.tryInsert reached start state slot requestId
    rw [refused] at reached
    exact sound_of_reaches reached
  obtain ⟨rfl, course⟩ := tryInsert_refused refused
  refine ⟨rfl, ?_, fun same table sampler =>
    generate_alike settings table _ sampler after cache same.alike, fun changed => ?_⟩
  · rcases course with ⟨rfl, other⟩ | ⟨emptied, short⟩
    · simp only [other, Bool.false_eq_true, false_and, not_false_eq_true, iff_true]
      exact ⟨rfl, .refl _⟩
    · refine ⟨fun same => ?_, fun spared => ?_⟩
      · rintro ⟨-, row, live⟩
        have idle := SlotBlocks.isLive_modify_cleared emptied row
        rw [same.alike.isLive, live] at idle
        cases idle
      · have idle (row : Nat) : cache.isLive slot row = false := by
          rw [← Bool.not_eq_true]
          exact fun live => spared ⟨short sound, row, live⟩
        exact sound.accounted.sameHoldings later.accounted
          (emptied.trans (sound.accounted.modify_cleared idle))
  · rcases course with ⟨rfl, -⟩ | ⟨emptied, -⟩
    · exact absurd ⟨rfl, .refl _⟩ changed
    · exact ⟨emptied, SlotBlocks.isLive_modify_cleared emptied⟩

def tight : EngineSettings :=
  { maxConcurrentDecodes := 2, vocabSize := 8, blockSize := 4, numBlocks := 3 }

def tightCache : SlotBlocks :=
  left ((tight.executor fun _ => .ok ()).insert ⟨[1, 2, 3], [4], [0], none⟩ (.fresh 2 1) 0 none
    tight.freshCache)

def longPrompt : Prefilled := ⟨List.replicate 15 1, [4], [0], none⟩

/-- The free slot 1 is refused for want of blocks, and nothing changes. -/
theorem rejected_insert_free_slot_untouched :
    ∃ fault after, (tight.executor fun _ => .ok ()).tryInsert longPrompt (.fresh 2 1) 1 none tightCache =
      .error ⟨fault, some (.fresh 2 1)⟩ after ∧ tightCache.SameHoldings after := by
  have reached : (tight.executor fun _ => Except.ok ()).Reaches tight.freshCache tightCache :=
    .insert .start _ _ _ _
  have refused : (tight.executor fun _ => .ok ()).tryInsert longPrompt (.fresh 2 1) 1 none tightCache =
      .error ⟨.blocks (.outOfBlocks 4 2), some (.fresh 2 1)⟩ _ := rfl
  refine ⟨_, _, refused, (rejected_insert_untouched_iff reached refused).2.1.mpr ?_⟩
  rintro ⟨-, row, live⟩
  cases row with
  | zero => cases live
  | succ row => cases live

/-- An insert into the occupied slot 0 is refused although the state comes back, and the block of the
slot is gone. -/
theorem rejected_insert_empties_occupied_slot :
    (tight.executor fun _ => Except.ok ()).Reaches tight.freshCache tightCache ∧
      ∃ fault after,
        (tight.executor fun _ => .ok ()).tryInsert longPrompt (.fresh 2 1) 0 none tightCache =
          .error ⟨fault, some (.fresh 2 1)⟩ after ∧
        tightCache.isLive 0 0 = true ∧ after.isLive 0 0 = false ∧ ¬tightCache.SameHoldings after := by
  refine ⟨.insert .start _ _ _ _, .blocks (.outOfBlocks 4 3), _, rfl, rfl, rfl, fun same => ?_⟩
  exact absurd same.tables (by decide)

end EngineSettings

end SlotServe
