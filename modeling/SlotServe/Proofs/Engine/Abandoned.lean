import SlotServe.Proofs.Engine.Spread

/-! Inserts into several slots that stop halfway. The slot that is refused ends without blocks, but
nothing takes back what the slots before it were given. -/
namespace SlotServe

def SlotBlocks.SameCounts (before after : SlotBlocks) : Prop :=
  ∀ slot row, (after.table? slot row).map (·.blocks.length) = (before.table? slot row).map (·.blocks.length)

theorem SlotBlocks.isLive_of_counts {cache after : SlotBlocks} {slot row : Nat}
    (same : (after.table? slot row).map (·.blocks.length) = (cache.table? slot row).map (·.blocks.length)) :
    after.isLive slot row = cache.isLive slot row := by
  have counted (cache : SlotBlocks) :
      cache.isLive slot row = ((cache.table? slot row).map (·.blocks.length)).any (· != 0) := by
    unfold isLive
    cases cache.table? slot row with
    | none => rfl
    | some table => cases blocks : table.blocks <;> simp [BlockTable.isEmpty, blocks]
  rw [counted, counted, same]

theorem checkSlots_fault {numSlots : Nat} {slots : List Nat} {fault : Fault}
    (failed : checkSlots numSlots slots = .error fault) : fault.isOutOfBlocks = false := by
  unfold checkSlots at failed
  generalize [] = seen at failed
  induction slots generalizing seen with
  | nil => cases failed
  | cons slot rest ih =>
    unfold checkSlotsAfter at failed
    split at failed
    next =>
      cases failed
      rfl
    next =>
      split at failed
      next =>
        cases failed
        rfl
      next => exact ih _ failed

namespace EngineSettings

variable {settings : EngineSettings} {start : Prefilled} {state next : DecodeState} {slot : Nat} {slots : List Nat}
  {cache after : SlotBlocks} {fault : Fault}

theorem insertEach_failed (failed : settings.insertEach start state slots cache = .error fault after) :
    ∃ before slot rest between middle, slots = before ++ slot :: rest ∧
      settings.insertEach start state before cache = .ok between middle ∧
      settings.insertRows start between slot none middle = .error fault after := by
  induction slots generalizing state cache with
  | nil => cases failed
  | cons slot rest ih =>
    rcases bind_faults failed with refused | ⟨between, middle, inserted, failed⟩
    · exact ⟨[], slot, rest, state, cache, rfl, rfl, refused⟩
    · obtain ⟨before, other, others, later, last, rfl, placed, refused⟩ := ih failed
      exact ⟨slot :: before, other, others, later, last, rfl, (bind_ok _ inserted).trans placed, refused⟩

theorem insertEach_unfit (misfit : ¬settings.FitsSlot start)
    (ok : settings.insertEach start state slots cache = .ok next after) : slots = [] ∧ after = cache := by
  cases slots with
  | nil =>
    cases ok
    exact ⟨rfl, rfl⟩
  | cons slot rest =>
    obtain ⟨_, _, inserted, -⟩ := bind_links ok
    exact absurd (insertRows_success inserted).1 misfit

/-- A slot that is there refuses a prompt with the right number of samples for want of blocks only. -/
theorem insertRows_refused (sound : settings.Sound cache) (inside : slot < settings.maxConcurrentDecodes)
    (fits : settings.FitsSlot start) (proper : ∀ cause, fault ≠ .defect cause)
    (failed : settings.insertRows start state slot none cache = .error fault after) :
    settings.Vacated slot cache after fault ∧ fault.isOutOfBlocks = true := by
  obtain ⟨vacated, later, -, same⟩ := insertRows_vacant sound inside fits state none
  have placing := failed
  rw [same] at placing
  have lacking : fault.isOutOfBlocks = true := by
    rcases placeRows_failed (fun _ => inside) placing with ⟨cause, defect⟩ | emptied
    · exact absurd defect (proper cause)
    · exact emptied.2 later
  rcases insertRows_failed failed with ⟨cause, defect⟩ | ⟨-, other⟩ | emptied
  · exact absurd defect (proper cause)
  · rw [lacking] at other
    cases other
  · exact ⟨emptied, lacking⟩

theorem Spread.share (spread : settings.Spread start slots state next cache after) {place row : Nat}
    (listed : place ∈ slots) (within : row < settings.samplesPerSlot) :
    (after.table? place row).map (·.blocks.length) = some (settings.rowShare start) := by
  obtain ⟨table, found, tokens⟩ := spread.counted place listed row within
  rw [found, Option.map_some, (spread.sound.accounted.snug place row table found).exact, tokens]
  rfl

/-- The slots that took the prompt up own what it wants, and the one that was emptied owns nothing. -/
theorem Spread.sameCounts_iff {middle : SlotBlocks} (spread : settings.Spread start slots state next cache middle)
    (sound : settings.Sound cache) (apart : slot ∉ slots)
    (emptied : after.slots = middle.slots.modify slot (·.map BlockTable.cleared)) :
    cache.SameCounts after ↔
      (∀ place ∈ slots, ∀ row < settings.samplesPerSlot,
        (cache.table? place row).map (·.blocks.length) = some (settings.rowShare start)) ∧
      ∀ row, cache.isLive slot row = false := by
  have tables {place : Nat} (different : place ≠ slot) (row : Nat) : after.table? place row = middle.table? place row :=
    (SlotBlocks.sameBut_of_cleared emptied).table? different row
  have apartFrom {place : Nat} (listed : place ∈ slots) : place ≠ slot := fun here => apart (here ▸ listed)
  -- Apart from the emptied slot, only the slots that took the prompt up can differ from the start.
  constructor
  · refine fun same => ⟨fun place listed row within => ?_, fun row => ?_⟩
    · rw [← same, tables (apartFrom listed)]
      exact spread.share listed within
    · rw [← SlotBlocks.isLive_of_counts (same slot row)]
      exact SlotBlocks.isLive_modify_cleared emptied row
  · rintro ⟨shares, idle⟩ place row
    by_cases here : place = slot
    · subst place
      have idleBetween (row : Nat) : middle.isLive slot row = false := by
        rw [SlotBlocks.isLive_of_table? ((spread.spared slot apart).2 row)]
        exact idle row
      rw [spread.sound.accounted.modify_cleared idleBetween] at emptied
      rw [SlotBlocks.table?, emptied, ← SlotBlocks.table?, (spread.spared slot apart).2]
    · rw [tables here]
      by_cases listed : place ∈ slots
      · by_cases within : row < settings.samplesPerSlot
        · rw [spread.share listed within, shares place listed row within]
        · rw [spread.sound.absent_row within, sound.absent_row within]
      · rw [(spread.spared place listed).2]

/-- What the slots own after a failed insert into several. Unless blocks were lacking, nothing
happened. Otherwise one slot was refused and owns nothing, each slot before it owns the blocks of the
whole prompt, and the slots after it are as they were. So the number of blocks of each row is what it
was exactly if the refused slot was idle and those before it owned as many all along. -/
theorem failed_insertAll_counts {V : Type} {build : VocabularySource → Except Fault V}
    (reached : (settings.executor build).Reaches settings.freshCache cache)
    (failed : (settings.executor build).insertAll start state slots cache = .error fault after)
    (proper : ∀ cause, fault ≠ .defect cause) :
    (fault.isOutOfBlocks = false → after = cache) ∧
      (fault.isOutOfBlocks = true → ∃ before slot rest, slots = before ++ slot :: rest ∧
        (∀ place ∈ before, ∀ row < settings.samplesPerSlot,
          (after.table? place row).map (·.blocks.length) = some (settings.rowShare start)) ∧
        (∀ row, after.isLive slot row = false) ∧
        (∀ place, place ∉ before → place ≠ slot → ∀ row, after.table? place row = cache.table? place row) ∧
        (cache.SameCounts after ↔
          (∀ place ∈ before, ∀ row < settings.samplesPerSlot,
            (cache.table? place row).map (·.blocks.length) = some (settings.rowShare start)) ∧
          ∀ row, cache.isLive slot row = false)) := by
  have sound := sound_of_reaches reached
  rcases bind_faults failed with refused | ⟨_, _, checked, inserting⟩
  · obtain ⟨wrong, rfl⟩ := answer_fault refused
    refine ⟨fun _ => rfl, fun lacking => ?_⟩
    rw [checkSlots_fault wrong] at lacking
    cases lacking
  · obtain ⟨listed, rfl⟩ := answer_success checked
    obtain ⟨distinct, inside⟩ := checkSlots_ok.mp listed
    obtain ⟨before, slot, rest, between, middle, rfl, placed, refused⟩ := insertEach_failed inserting
    by_cases fits : settings.FitsSlot start
    · obtain ⟨distinct, -, apart⟩ := List.nodup_append.mp distinct
      have spread := insertEach_spread sound distinct placed
      obtain ⟨⟨emptied, -⟩, lacking⟩ := insertRows_refused spread.sound (inside slot (by simp)) fits proper refused
      have apart : slot ∉ before := fun member => apart slot member slot (by simp) rfl
      have tables (place : Nat) (different : place ≠ slot) (row : Nat) :
          after.table? place row = middle.table? place row :=
        (SlotBlocks.sameBut_of_cleared emptied).table? different row
      refine ⟨fun other => ?_, fun _ => ⟨before, slot, rest, rfl, fun place member row within => ?_,
        SlotBlocks.isLive_modify_cleared emptied, fun place absent different row => ?_,
        spread.sameCounts_iff sound apart emptied⟩⟩
      · rw [lacking] at other
        cases other
      · rw [tables place fun here => apart (here ▸ member)]
        exact spread.share member within
      · rw [tables place different]
        exact (spread.spared place absent).2 row
    · obtain ⟨rfl, rfl⟩ := insertEach_unfit fits placed
      rw [insertRows_eq, if_neg fits] at refused
      cases refused
      exact ⟨fun _ => rfl, nofun⟩

/-- A prompt for which the first slot of the list has no room leaves every count as it was. -/
theorem failed_insertAll_first_slot_counts :
    ∃ fault after, (tight.executor fun _ => .ok ()).insertAll longPrompt (.fresh 2 1) [1] tightCache =
      .error fault after ∧ tightCache.SameCounts after := by
  have reached : (tight.executor fun _ => Except.ok ()).Reaches tight.freshCache tightCache :=
    .insert .start _ _ _ _
  have refused : (tight.executor fun _ => .ok ()).insertAll longPrompt (.fresh 2 1) [1] tightCache =
      .error (.blocks (.outOfBlocks 4 2)) _ := rfl
  refine ⟨_, _, refused, ?_⟩
  obtain ⟨before, slot, rest, split, -, -, -, same⟩ := (failed_insertAll_counts reached refused nofun).2 rfl
  obtain ⟨rfl, rfl, rfl⟩ : before = [] ∧ slot = 1 ∧ rest = [] := by
    cases before <;> simp_all
  refine same.mpr ⟨nofun, fun row => ?_⟩
  cases row <;> rfl

/-- A prompt of seven tokens fits slot 0 but not slot 1 as well. The call fails, and slot 0, which
owned nothing, keeps two blocks. -/
theorem failed_insertAll_keeps_blocks :
    (tight.executor fun _ => Except.ok ()).Reaches tight.freshCache tight.freshCache ∧
      ∃ fault after,
        (tight.executor fun _ => .ok ()).insertAll ⟨[1, 2, 3, 4, 5, 6, 7], [3], [0], none⟩ (.fresh 2 1) [0, 1]
          tight.freshCache = .error fault after ∧
        fault.isOutOfBlocks = true ∧
        (tight.freshCache.table? 0 0).map (·.blocks) = some [] ∧
        (after.table? 0 0).map (·.blocks) = some [0, 1] ∧
        ¬tight.freshCache.SameCounts after :=
  ⟨.start, .blocks (.outOfBlocks 2 1), _, rfl, rfl, rfl, rfl, fun same => absurd (same 0 0) (by decide)⟩

end EngineSettings

end SlotServe
