import SlotServe.Proofs.Block.Room
import SlotServe.Proofs.Engine.Vacancy

/-! One prompt for several slots. Each slot that it goes into takes the same number of blocks, whatever
ids these have, so that neither the room that is wanted nor the outcome depends on the order of the
slots. -/
namespace SlotServe

theorem checkSlotsAfter_ok {numSlots : Nat} {seen slots : List Nat} :
    checkSlotsAfter numSlots seen slots = .ok () ↔
      slots.Nodup ∧ ∀ slot ∈ slots, slot < numSlots ∧ slot ∉ seen := by
  induction slots generalizing seen with
  | nil => simp [checkSlotsAfter]
  | cons slot rest ih =>
    unfold checkSlotsAfter
    by_cases outside : numSlots ≤ slot
    · rw [if_pos outside]
      refine iff_of_false nofun fun sound => ?_
      have inside := (sound.2 slot (by simp)).1
      omega
    · rw [if_neg outside]
      by_cases again : slot ∈ seen
      · rw [if_pos (List.contains_iff_mem.mpr again)]
        exact iff_of_false nofun fun sound => (sound.2 slot (by simp)).2 again
      · rw [if_neg (by simpa using again), ih, List.nodup_cons]
        constructor
        · rintro ⟨distinct, sound⟩
          refine ⟨⟨fun member => (sound slot member).2 (by simp), distinct⟩, fun other member => ?_⟩
          rcases List.mem_cons.mp member with rfl | later
          · exact ⟨by omega, again⟩
          · exact (sound other later).imp_right fun apart seen => apart (List.mem_cons_of_mem slot seen)
        · rintro ⟨⟨first, distinct⟩, sound⟩
          refine ⟨distinct, fun other member => (sound other (List.mem_cons_of_mem slot member)).imp_right ?_⟩
          intro apart seen
          rcases List.mem_cons.mp seen with rfl | seen
          · exact first member
          · exact apart seen

theorem checkSlots_ok {numSlots : Nat} {slots : List Nat} :
    checkSlots numSlots slots = .ok () ↔ slots.Nodup ∧ ∀ slot ∈ slots, slot < numSlots := by
  simp [checkSlots, checkSlotsAfter_ok]

namespace SlotBlocks

variable {cache twin : SlotBlocks} {blockSize numBlocks numSlots samples : Nat}

theorem Accounted.alike (accounted : cache.Accounted blockSize numBlocks) (other : twin.Accounted blockSize numBlocks)
    (shaped : cache.Shaped numSlots samples) (otherShaped : twin.Shaped numSlots samples)
    (same : ∀ slot < numSlots, ∀ row < samples,
      (cache.table? slot row).map BlockTable.outline = (twin.table? slot row).map BlockTable.outline) :
    cache.Alike twin := by
  have tables : cache.slots.map (·.map BlockTable.outline) = twin.slots.map (·.map BlockTable.outline) := by
    refine List.ext_getElem (by simp [shaped.height, otherShaped.height]) fun slot inside twinInside => ?_
    have present : slot < cache.slots.length := by simpa using inside
    have twinPresent : slot < twin.slots.length := by simpa using twinInside
    have width := shaped.uniform _ (List.getElem_mem present)
    have twinWidth := otherShaped.uniform _ (List.getElem_mem twinPresent)
    simp only [List.getElem_map]
    refine List.ext_getElem (by simp [width, twinWidth]) fun row within twinWithin => ?_
    have rowInside : row < samples := by simpa [width] using within
    have agree := same slot (by rwa [← shaped.height]) row rowInside
    simpa [table?, present, twinPresent, width, twinWidth, rowInside] using agree
  exact accounted.alike_of_outlines other tables

end SlotBlocks

namespace EngineSettings

variable {settings : EngineSettings} {start : Prefilled} {state next : DecodeState} {slot : Nat}
  {slots : List Nat} {requestId : Option RequestId} {cache after : SlotBlocks}

def rowShare (settings : EngineSettings) (start : Prefilled) : Nat :=
  Size.groups (start.context.length + 1) (max settings.blockSize 1)

/-- What a slot asks of a prompt that it takes up, room in the cache apart. -/
structure Placeable (settings : EngineSettings) (start : Prefilled) (requestId : Option RequestId) : Prop where
  fits : settings.FitsSlot start
  counted : start.context.length + 1 < Size.limit
  stored : settings.samplesPerSlot ≠ 0 → settings.rowShare start * max settings.blockSize 1 < Size.limit
  seeded : ∃ rows, seedRows start requestId 0 settings.samplesPerSlot = .ok rows

theorem insertRows_taken (sound : settings.Sound cache) (idle : ∀ row, cache.isLive slot row = false)
    (ok : settings.insertRows start state slot requestId cache = .ok next after) :
    settings.Placeable start requestId ∧
      after.pool.numFree + settings.samplesPerSlot * settings.rowShare start = cache.pool.numFree := by
  obtain ⟨fits, ⟨rows, seeded, -⟩, -⟩ := insertRows_success ok
  have vacant := SlotBlocks.vacant_of_idle sound.accounted idle
  rw [insertRows_idle sound (insertRows_inside sound ok) idle fits] at ok
  obtain ⟨length, _, counting, reserving⟩ := bind_links ok
  obtain ⟨counted, rfl⟩ := answer_success counting
  obtain ⟨_, reserved, grown, seeding⟩ := bind_links reserving
  obtain ⟨_, _, writing, done⟩ := bind_links seeding
  obtain ⟨-, rfl⟩ := answer_success writing
  cases done
  obtain ⟨below, rfl⟩ := by simpa [Size.add?] using orDefect_success counted
  unfold reserveSlot at grown
  split at grown
  next rowsGrown =>
    cases grown
    obtain ⟨taken, stored⟩ :=
      sound.accounted.reserveRows_taken (fun place table _ found => vacant place table found) rowsGrown
    exact ⟨⟨fits, below, stored, rows, seeded⟩, taken⟩
  next => cases grown
  next => split at grown <;> cases grown

theorem insertRows_room (sound : settings.Sound cache) (inside : slot < settings.maxConcurrentDecodes)
    (idle : ∀ row, cache.isLive slot row = false) (placeable : settings.Placeable start requestId)
    (room : settings.samplesPerSlot * settings.rowShare start ≤ cache.pool.numFree) (state : DecodeState) :
    ∃ next after, settings.insertRows start state slot requestId cache = .ok next after := by
  obtain ⟨rows, seeded⟩ := placeable.seeded
  have vacant := SlotBlocks.vacant_of_idle sound.accounted idle
  have grown : ∃ after,
      SlotBlocks.reserveRows slot (start.context.length + 1) 0 settings.samplesPerSlot cache = .ok () after := by
    by_cases none : settings.samplesPerSlot = 0
    · rw [none]
      exact ⟨cache, rfl⟩
    · have storable (table : BlockTable) (snug : table.Snug settings.blockSize) (empty : table.numTokens = 0) :
          table.Storable (start.context.length + 1) := by
        unfold BlockTable.Storable
        rw [empty, Nat.zero_add, snug.sized]
        exact placeable.stored none
      rcases sound.accounted.reserveRows_room sound.shaped inside (Nat.le_of_eq (Nat.zero_add _)) storable
        (fun place table _ found => vacant place table found) with ⟨-, _, after, grown⟩ | ⟨short, -⟩
      · exact ⟨after, grown⟩
      · exact absurd room short
  obtain ⟨after, grown⟩ := grown
  have reserved : settings.reserveSlot slot (start.context.length + 1) cache = .ok () after := by
    unfold reserveSlot
    rw [grown]
  have counted : Size.add? start.context.length 1 = some (start.context.length + 1) := if_pos placeable.counted
  refine ⟨state.setSlot slot rows, after, ?_⟩
  rw [insertRows_idle sound inside idle placeable.fits, placeRows, counted]
  refine (bind_ok _ rfl).trans ((bind_ok _ reserved).trans ?_)
  rw [seeded]
  rfl

structure Spread (settings : EngineSettings) (start : Prefilled) (slots : List Nat) (state next : DecodeState)
    (cache after : SlotBlocks) : Prop where
  sound : settings.Sound after
  seeded : ∀ slot ∈ slots, ∃ rows, seedRows start none 0 settings.samplesPerSlot = .ok rows ∧
    next.slots[slot]? = state.slots[slot]?.map fun _ => rows
  counted : ∀ slot ∈ slots, ∀ row < settings.samplesPerSlot, ∃ table, after.table? slot row = some table ∧
    table.numTokens = start.context.length + 1
  spared : ∀ slot, slot ∉ slots →
    next.slots[slot]? = state.slots[slot]? ∧ ∀ row, after.table? slot row = cache.table? slot row

theorem insertRows_spread (sound : settings.Sound cache)
    (ok : settings.insertRows start state slot none cache = .ok next after) :
    settings.Spread start [slot] state next cache after := by
  have later := (sound_kept slot).insertRows settings start state none cache sound
  have sameBut := (sameBut_keptAt slot cache).insertRows settings start state none cache rfl
  rw [ok] at later sameBut
  have counted := insertRows_counts sound ok
  obtain ⟨-, ⟨rows, seeded, rfl⟩, -⟩ := insertRows_success ok
  refine ⟨later, fun other member => ?_, fun other member => ?_, fun other absent => ?_⟩
  · obtain rfl := List.mem_singleton.mp member
    refine ⟨rows, seeded, ?_⟩
    rw [DecodeState.setSlot, List.getElem?_set_self']
    rfl
  · obtain rfl := List.mem_singleton.mp member
    exact counted
  · have different : other ≠ slot := fun same => absent (List.mem_singleton.mpr same)
    refine ⟨?_, fun row => sameBut.table? different row⟩
    rw [DecodeState.setSlot, List.getElem?_set_ne (Ne.symm different)]

theorem Spread.cons {between : DecodeState} {middle : SlotBlocks}
    (first : settings.Spread start [slot] state between cache middle)
    (later : settings.Spread start slots between next middle after) (apart : slot ∉ slots) :
    settings.Spread start (slot :: slots) state next cache after := by
  refine ⟨later.sound, fun other member => ?_, fun other member => ?_, fun other absent => ?_⟩
  · rcases List.mem_cons.mp member with rfl | member
    · rw [(later.spared other apart).1]
      exact first.seeded other (by simp)
    · obtain ⟨rows, seeded, written⟩ := later.seeded other member
      have different : other ∉ [slot] := by
        rintro here
        exact apart (List.mem_singleton.mp here ▸ member)
      rw [(first.spared other different).1] at written
      exact ⟨rows, seeded, written⟩
  · rcases List.mem_cons.mp member with rfl | member
    · intro row within
      rw [(later.spared other apart).2]
      exact first.counted other (by simp) row within
    · exact later.counted other member
  · have different : other ≠ slot := fun same => absent (List.mem_cons.mpr (.inl same))
    have absent : other ∉ slots := fun member => absent (List.mem_cons_of_mem slot member)
    obtain ⟨rows, tables⟩ := first.spared other (by simpa using different)
    obtain ⟨laterRows, laterTables⟩ := later.spared other absent
    exact ⟨laterRows.trans rows, fun row => (laterTables row).trans (tables row)⟩

theorem insertEach_spread (sound : settings.Sound cache) (distinct : slots.Nodup)
    (ok : settings.insertEach start state slots cache = .ok next after) :
    settings.Spread start slots state next cache after := by
  induction slots generalizing state cache with
  | nil =>
    cases ok
    exact ⟨sound, nofun, nofun, fun slot _ => ⟨rfl, fun row => rfl⟩⟩
  | cons slot rest ih =>
    obtain ⟨apart, distinct⟩ := List.nodup_cons.mp distinct
    obtain ⟨between, middle, inserted, ok⟩ := bind_links ok
    have first := insertRows_spread sound inserted
    exact first.cons (ih first.sound distinct ok) apart

theorem Spread.idle (spread : settings.Spread start slots state next cache after) (absent : slot ∉ slots)
    (idle : ∀ row, cache.isLive slot row = false) (row : Nat) : after.isLive slot row = false := by
  rw [SlotBlocks.isLive_of_table? ((spread.spared slot absent).2 row)]
  exact idle row

/-- Idle slots take the prompt up if there is room for all of them together. -/
theorem insertEach_ok_iff (sound : settings.Sound cache) (distinct : slots.Nodup)
    (inside : ∀ slot ∈ slots, slot < settings.maxConcurrentDecodes)
    (idle : ∀ slot ∈ slots, ∀ row, cache.isLive slot row = false) (start : Prefilled) (state : DecodeState) :
    (∃ next after, settings.insertEach start state slots cache = .ok next after) ↔
      (slots ≠ [] → settings.Placeable start none) ∧
        slots.length * (settings.samplesPerSlot * settings.rowShare start) ≤ cache.pool.numFree := by
  induction slots generalizing state cache with
  | nil =>
    refine iff_of_true ⟨state, cache, rfl⟩ ⟨fun some => absurd rfl some, ?_⟩
    rw [List.length_nil, Nat.zero_mul]
    exact Nat.zero_le _
  | cons slot rest ih =>
    obtain ⟨apart, distinct⟩ := List.nodup_cons.mp distinct
    have slotIdle := idle slot (by simp)
    -- The first slot takes its share of the free blocks, and the others stay idle.
    have further (between : DecodeState) (middle : SlotBlocks)
        (inserted : settings.insertRows start state slot none cache = .ok between middle) :
        (∃ next after, settings.insertEach start between rest middle = .ok next after) ↔
          (rest ≠ [] → settings.Placeable start none) ∧
            rest.length * (settings.samplesPerSlot * settings.rowShare start) ≤ middle.pool.numFree := by
      have first := insertRows_spread sound inserted
      have restInside (other : Nat) (member : other ∈ rest) := inside other (List.mem_cons_of_mem slot member)
      refine ih first.sound distinct restInside (fun other member => ?_) between
      have different : other ∉ [slot] := fun here => apart (List.mem_singleton.mp here ▸ member)
      exact first.idle different (idle other (by simp [member]))
    rw [List.length_cons, Nat.succ_mul]
    constructor
    · rintro ⟨next, after, ok⟩
      obtain ⟨between, middle, inserted, ok⟩ := bind_links ok
      obtain ⟨placeable, taken⟩ := insertRows_taken sound slotIdle inserted
      obtain ⟨-, room⟩ := (further between middle inserted).mp ⟨next, after, ok⟩
      exact ⟨fun _ => placeable, by omega⟩
    · rintro ⟨placeable, room⟩
      have placeable := placeable (List.cons_ne_nil slot rest)
      obtain ⟨between, middle, inserted⟩ :=
        insertRows_room sound (inside slot (by simp)) slotIdle placeable (by omega) state
      obtain ⟨-, taken⟩ := insertRows_taken sound slotIdle inserted
      obtain ⟨next, after, ok⟩ := (further between middle inserted).mpr ⟨fun _ => placeable, by omega⟩
      exact ⟨next, after, (bind_ok _ inserted).trans ok⟩

theorem Sound.absent_row (sound : settings.Sound cache) {row : Nat} (beyond : ¬row < settings.samplesPerSlot) :
    cache.table? slot row = none :=
  Option.eq_none_iff_forall_ne_some.mpr fun _ found => beyond (Grid.inside sound.shaped found).2

theorem Sound.outline_at (sound : settings.Sound cache) {count : Nat}
    (counted : ∀ row < settings.samplesPerSlot, ∃ table, cache.table? slot row = some table ∧ table.numTokens = count)
    (row : Nat) : (cache.table? slot row).map BlockTable.outline =
      if row < settings.samplesPerSlot then
        some (Size.groups count (max settings.blockSize 1), count, max settings.blockSize 1)
      else none := by
  split
  next within =>
    obtain ⟨table, found, tokens⟩ := counted row within
    rw [found, Option.map_some, (sound.accounted.snug slot row table found).outline tokens]
  next beyond => rw [sound.absent_row beyond, Option.map_none]

section

variable {order : List Nat} {other : DecodeState} {twin : SlotBlocks}
  (spread : settings.Spread start slots state next cache after)
  (second : settings.Spread start order state other cache twin)

include spread second

/-- A slot that takes the prompt up ends the same, whichever other slots do. -/
theorem Spread.agree (listed : slot ∈ slots) (listedToo : slot ∈ order) :
    next.slots[slot]? = other.slots[slot]? ∧
      ∀ row, (after.table? slot row).map BlockTable.outline = (twin.table? slot row).map BlockTable.outline := by
  -- The rows are seeded from the prompt alone, and their tables hold what the tokens of the prompt need.
  obtain ⟨rows, seeded, written⟩ := spread.seeded slot listed
  obtain ⟨same, again, writtenToo⟩ := second.seeded slot listedToo
  obtain rfl : rows = same := Except.ok.inj (seeded.symm.trans again)
  refine ⟨written.trans writtenToo.symm, fun row => ?_⟩
  rw [spread.sound.outline_at (spread.counted slot listed), second.sound.outline_at (second.counted slot listedToo)]

theorem Spread.same (perm : order.Perm slots) : next = other ∧ after.Alike twin := by
  have agree (slot : Nat) : next.slots[slot]? = other.slots[slot]? ∧
      ∀ row, (after.table? slot row).map BlockTable.outline = (twin.table? slot row).map BlockTable.outline := by
    by_cases listed : slot ∈ slots
    · exact spread.agree second listed (perm.mem_iff.mpr listed)
    · obtain ⟨rows, tables⟩ := spread.spared slot listed
      obtain ⟨rowsToo, tablesToo⟩ := second.spared slot fun member => listed (perm.mem_iff.mp member)
      exact ⟨rows.trans rowsToo.symm, fun row => by rw [tables, tablesToo]⟩
  refine ⟨congrArg DecodeState.mk (List.ext_getElem? fun slot => (agree slot).1), ?_⟩
  exact spread.sound.accounted.alike second.sound.accounted spread.sound.shaped second.sound.shaped
    fun slot _ row _ => (agree slot).2 row

end

variable {V : Type} {build : VocabularySource → Except Fault V}

theorem insert_inside (inside : slot < settings.maxConcurrentDecodes) (start : Prefilled) (state : DecodeState)
    (requestId : Option RequestId) :
    (settings.executor build).insert start state slot requestId =
      settings.insertRows start state slot requestId := by
  funext cache
  exact bind_ok _ (congrArg (fun checked => answer checked cache) (if_pos inside))

theorem insertAll_inside (distinct : slots.Nodup) (inside : ∀ slot ∈ slots, slot < settings.maxConcurrentDecodes)
    (start : Prefilled) (state : DecodeState) :
    (settings.executor build).insertAll start state slots = settings.insertEach start state slots := by
  funext cache
  exact bind_ok _ (congrArg (fun checked => answer checked cache) (checkSlots_ok.mpr ⟨distinct, inside⟩))

theorem insertEach_eq (inside : ∀ slot ∈ slots, slot < settings.maxConcurrentDecodes) (start : Prefilled)
    (state : DecodeState) : settings.insertEach start state slots =
      slots.foldlM (fun state slot => (settings.executor build).insert start state slot none) state := by
  induction slots generalizing state with
  | nil => rfl
  | cons slot rest ih =>
    rw [insertEach, List.foldlM_cons, insert_inside (inside slot (by simp))]
    exact congrArg _ (funext fun next => ih (fun other member => inside other (by simp [member])) next)

/-- Putting a prompt into several slots is putting it into each of them in turn. Where these hold no
blocks the order does not matter: each slot ends up as a single insert would leave it, no other slot
notices, and only the ids of the blocks may differ. -/
theorem insertAll_in_any_order (reached : (settings.executor build).Reaches settings.freshCache cache)
    (start : Prefilled) (state : DecodeState) (distinct : slots.Nodup)
    (inside : ∀ slot ∈ slots, slot < settings.maxConcurrentDecodes) :
    (settings.executor build).insertAll start state slots cache =
        slots.foldlM (fun state slot => (settings.executor build).insert start state slot none) state cache ∧
      ((∀ slot ∈ slots, ∀ row, cache.isLive slot row = false) → ∀ order : List Nat, order.Perm slots →
        ((∃ fault after, (settings.executor build).insertAll start state slots cache = .error fault after) ∧
          ∃ fault after, (settings.executor build).insertAll start state order cache = .error fault after) ∨
        ∃ next after twin, (settings.executor build).insertAll start state slots cache = .ok next after ∧
          (settings.executor build).insertAll start state order cache = .ok next twin ∧ after.Alike twin ∧
          (∀ slot ∈ slots, ∃ alone single,
            (settings.executor build).insert start state slot none cache = .ok alone single ∧
            next.slots[slot]? = alone.slots[slot]? ∧
            ∀ row, (after.table? slot row).map BlockTable.outline = (single.table? slot row).map BlockTable.outline) ∧
          ∀ slot, slot ∉ slots →
            next.slots[slot]? = state.slots[slot]? ∧ ∀ row, after.table? slot row = cache.table? slot row) := by
  have sound := sound_of_reaches reached
  rw [insertAll_inside distinct inside]
  refine ⟨congrFun (insertEach_eq inside start state) cache, fun idle order perm => ?_⟩
  have orderDistinct := perm.nodup_iff.mpr distinct
  have orderInside (slot : Nat) (member : slot ∈ order) := inside slot (perm.mem_iff.mp member)
  rw [insertAll_inside orderDistinct orderInside]
  have orderIdle (slot : Nat) (member : slot ∈ order) := idle slot (perm.mem_iff.mp member)
  have first := insertEach_ok_iff sound distinct inside idle start state
  have second := insertEach_ok_iff sound orderDistinct orderInside orderIdle start state
  have someOrder : order ≠ [] ↔ slots ≠ [] := by
    rw [← List.length_pos_iff, ← List.length_pos_iff, perm.length_eq]
  rw [perm.length_eq, someOrder] at second
  by_cases placed : (slots ≠ [] → settings.Placeable start none) ∧
      slots.length * (settings.samplesPerSlot * settings.rowShare start) ≤ cache.pool.numFree
  · obtain ⟨next, after, ok⟩ := first.mpr placed
    obtain ⟨other, twin, okToo⟩ := second.mpr placed
    have spread := insertEach_spread sound distinct ok
    obtain ⟨rfl, alike⟩ := spread.same (insertEach_spread sound orderDistinct okToo) perm
    refine .inr ⟨next, after, twin, ok, okToo, alike, fun slot member => ?_, spread.spared⟩
    have some : 0 < slots.length := List.length_pos_of_mem member
    have room := Nat.le_trans (Nat.le_mul_of_pos_left _ some) placed.2
    obtain ⟨alone, single, inserted⟩ := insertRows_room sound (inside slot member) (idle slot member)
      (placed.1 (List.ne_nil_of_mem member)) room state
    have agree := spread.agree (insertRows_spread sound inserted) member (List.mem_singleton_self slot)
    rw [← insert_inside (inside slot member)] at inserted
    exact ⟨alone, single, inserted, agree⟩
  · refine .inl ⟨?_, ?_⟩
    · exact fails_of_not_ok fun next after ok => placed (first.mp ⟨next, after, ok⟩)
    · exact fails_of_not_ok fun next after ok => placed (second.mp ⟨next, after, ok⟩)

/-- The cache in which slot 0 was taken and given back. Its free blocks are out of order. -/
def tightReturned : SlotBlocks :=
  left ((tight.executor fun _ => .ok ()).free 0
    (left ((tight.executor fun _ => .ok ()).insert ⟨[1, 2, 3, 4, 5, 6], [4], [0], none⟩ (.fresh 2 1) 0 none
      tight.freshCache)))

/-- Both orders of two slots end with the same rows on different blocks. -/
theorem insertAll_both_orders_of_two_slots :
    ∃ next after twin,
      (tight.executor fun _ => .ok ()).insertAll ⟨[1, 2, 3], [4], [0], none⟩ (.fresh 2 1) [0, 1] tightReturned =
          .ok next after ∧
        (tight.executor fun _ => .ok ()).insertAll ⟨[1, 2, 3], [4], [0], none⟩ (.fresh 2 1) [1, 0] tightReturned =
          .ok next twin ∧
        after.Alike twin ∧ after ≠ twin := by
  have reached : (tight.executor fun _ => Except.ok ()).Reaches tight.freshCache tightReturned :=
    .free (.insert .start _ _ _ _) _
  have idle (slot : Nat) (member : slot ∈ [0, 1]) (row : Nat) : tightReturned.isLive slot row = false := by
    rcases List.mem_pair.mp member with rfl | rfl <;> cases row <;> rfl
  have distinct : [0, 1].Nodup := by decide
  obtain ⟨-, orders⟩ := insertAll_in_any_order reached ⟨[1, 2, 3], [4], [0], none⟩ (.fresh 2 1) distinct (by decide)
  rcases orders idle [1, 0] (.swap ..) with
    ⟨⟨fault, after, failed⟩, -⟩ | ⟨next, after, twin, ok, okToo, alike, -⟩
  · cases failed
  · refine ⟨next, after, twin, ok, okToo, alike, ?_⟩
    cases ok
    cases okToo
    decide

end EngineSettings

end SlotServe
