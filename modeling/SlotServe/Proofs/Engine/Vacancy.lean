import SlotServe.Proofs.Engine.Rejected
import SlotServe.Proofs.Engine.Seeding

/-! An insert into a slot of a sound cache goes by way of the emptied slot. There every row counts no
token, so that afterwards it counts those of the prompt and its first token, and the only thing that
can be lacking is blocks. -/
namespace SlotServe

structure Prefilled.Fit (start : Prefilled) : Prop where
  scored : start.logProbs.length = start.firstTokens.length
  addressable : Size.addressable start.context.length 4 = true

structure Prefilled.Storable (start : Prefilled) : Prop where
  scored : start.logProbs.length = start.firstTokens.length
  short : start.context.length + 1 < Size.half

theorem Prefilled.Fit.storable {start : Prefilled} (fit : start.Fit) : start.Storable := by
  have half : Size.half = 0x8000000000000000 := rfl
  have addressable : start.context.length * 4 < 0x8000000000000000 := by
    simpa [Size.addressable] using fit.addressable
  exact ⟨fit.scored, by omega⟩

theorem Prefilled.Storable.counted {start : Prefilled} (storable : start.Storable) :
    Size.add? start.context.length 1 = some (start.context.length + 1) := by
  have limit : Size.limit = 0x10000000000000000 := rfl
  have half : Size.half = 0x8000000000000000 := rfl
  have short := storable.short
  exact if_pos (by omega)

def Prefilled.sampleOf (start : Prefilled) (row : Nat) : Nat :=
  if start.firstTokens.length = 1 then 0 else row

theorem Prefilled.seeded_ok (start : Prefilled) (scored : start.logProbs.length = start.firstTokens.length)
    {sample : Nat} (inside : sample < start.firstTokens.length) : ∃ row, DecodeRow.seeded start sample = .ok row := by
  have within : sample < start.logProbs.length := by rwa [scored]
  rw [DecodeRow.seeded, List.getElem?_eq_getElem inside, List.getElem?_eq_getElem within]
  exact ⟨_, rfl⟩

namespace EngineSettings

variable {settings : EngineSettings} {start : Prefilled} {state next : DecodeState} {slot : Nat}
  {requestId : Option RequestId} {cache after : SlotBlocks} {fault : Fault}

/-- An emptied slot has no row that counts a token. -/
theorem emptied_vacant (sound : settings.Sound cache) {tables : List BlockTable}
    (present : cache.slots[slot]? = some tables) :
    settings.Sound (cache.emptied slot tables) ∧ (cache.emptied slot tables).Vacant slot := by
  have freed := sound.accounted.freeSlot_eq present
  have later := (sound_kept slot).freeSlot cache sound
  have slots := SlotBlocks.slots_freeSlot cache slot
  rw [freed] at later slots
  exact ⟨later, SlotBlocks.vacant_of_idle later.accounted (SlotBlocks.isLive_modify_cleared slots)⟩

/-- Whether or not the slot holds blocks, the insert goes on from the emptied slot. -/
theorem insertRows_emptied (sound : settings.Sound cache) {tables : List BlockTable}
    (present : cache.slots[slot]? = some tables) (fits : settings.FitsSlot start) (state : DecodeState)
    (requestId : Option RequestId) :
    settings.insertRows start state slot requestId cache =
      settings.placeRows start state slot requestId (cache.emptied slot tables) := by
  rw [insertRows_eq, if_pos fits, present]
  dsimp only
  split
  next => rw [bind_ok _ (sound.accounted.freeSlot_eq present)]
  next empty =>
    have idle (row : Nat) : cache.isLive slot row = false := by
      refine SlotBlocks.isLive_eq_false present fun table member => ?_
      simpa [BlockTable.isEmpty] using List.any_eq_false.mp (Bool.eq_false_iff.mpr empty) table member
    rw [SlotBlocks.emptied_of_idle sound.accounted present idle]

theorem insertRows_idle (sound : settings.Sound cache) (inside : slot < settings.maxConcurrentDecodes)
    (idle : ∀ row, cache.isLive slot row = false) (fits : settings.FitsSlot start) (state : DecodeState)
    (requestId : Option RequestId) :
    settings.insertRows start state slot requestId cache = settings.placeRows start state slot requestId cache := by
  obtain ⟨tables, present, -⟩ := sound.shaped.present inside
  rw [insertRows_emptied sound present fits, SlotBlocks.emptied_of_idle sound.accounted present idle]

theorem insertRows_vacant (sound : settings.Sound cache) (inside : slot < settings.maxConcurrentDecodes)
    (fits : settings.FitsSlot start) (state : DecodeState) (requestId : Option RequestId) :
    ∃ vacated, settings.Sound vacated ∧ vacated.Vacant slot ∧
      settings.insertRows start state slot requestId cache = settings.placeRows start state slot requestId vacated := by
  obtain ⟨tables, present, -⟩ := sound.shaped.present inside
  obtain ⟨later, vacant⟩ := emptied_vacant sound present
  exact ⟨_, later, vacant, insertRows_emptied sound present fits state requestId⟩

theorem insertRows_inside (sound : settings.Sound cache)
    (ok : settings.insertRows start state slot requestId cache = .ok next after) :
    slot < settings.maxConcurrentDecodes := by
  rw [insertRows_eq] at ok
  split at ok
  next =>
    split at ok
    next => cases ok
    next tables present =>
      rw [← sound.shaped.height]
      exact (List.getElem?_eq_some_iff.mp present).1
  next => cases ok

theorem insertRows_counts (sound : settings.Sound cache)
    (ok : settings.insertRows start state slot requestId cache = .ok next after) :
    ∀ row < settings.samplesPerSlot, ∃ table, after.table? slot row = some table ∧
      table.numTokens = start.context.length + 1 := by
  intro row within
  have fits := (insertRows_success ok).1
  obtain ⟨vacated, -, vacant, same⟩ := insertRows_vacant sound (insertRows_inside sound ok) fits state requestId
  rw [same] at ok
  obtain ⟨-, table, granted, found, taken⟩ := (placeRows_success ok).2 row within
  refine ⟨_, taken, ?_⟩
  rw [BlockTable.grown, vacant row table found, Nat.zero_add]

/-- The rows of the slot start from the prompt, and those of other slots are as they were. -/
theorem insertRows_rows (sound : settings.Sound cache)
    (grid : Grid settings.maxConcurrentDecodes settings.samplesPerSlot state.slots)
    (ok : settings.insertRows start state slot requestId cache = .ok next after) :
    Grid settings.maxConcurrentDecodes settings.samplesPerSlot next.slots ∧
      (∀ row < settings.samplesPerSlot, ∃ entry, next.row? slot row = some entry ∧
        entry.StartsAt start (start.sampleOf row)) ∧
      ∀ other row, other ≠ slot → next.row? other row = state.row? other row := by
  have inside := insertRows_inside sound ok
  obtain ⟨-, ⟨rows, seeded, rfl⟩, -⟩ := insertRows_success ok
  obtain ⟨size, stands⟩ := seedRows_success seeded
  have present : slot < state.slots.length := by rwa [grid.height]
  refine ⟨grid.set slot size, fun row within => ?_, fun other row different => ?_⟩
  · have bound : row < rows.length := by rwa [size]
    have starts := stands row rows[row] (List.getElem?_eq_getElem bound)
    rw [Nat.zero_add] at starts
    refine ⟨rows[row], ?_, starts⟩
    rw [DecodeState.row?_setSlot _ _ _ present, if_pos rfl]
    exact List.getElem?_eq_getElem bound
  · rw [DecodeState.row?_setSlot _ _ _ present, if_neg different]

theorem seedRows_ok (scored : start.logProbs.length = start.firstTokens.length) (fits : settings.FitsSlot start)
    {row rows : Nat} (within : row + rows ≤ settings.samplesPerSlot) :
    ∃ seeded, seedRows start requestId row rows = .ok seeded := by
  induction rows generalizing row with
  | zero => exact ⟨[], rfl⟩
  | succ rows ih =>
    have token : (if start.firstTokens.length = 1 then 0 else row) < start.firstTokens.length := by
      rcases fits with one | all
      · rw [if_pos one]
        omega
      · split <;> omega
    obtain ⟨first, seeding⟩ := start.seeded_ok scored token
    obtain ⟨rest, following⟩ := ih (show row + 1 + rows ≤ settings.samplesPerSlot by omega)
    rw [seedRows, seeding, following]
    exact ⟨_, rfl⟩

theorem reserveSlot_proper (sound : settings.Sound cache) (inside : slot < settings.maxConcurrentDecodes)
    (vacant : cache.Vacant slot) (word : settings.blockSize < Size.limit) {count : Nat} (short : count ≤ Size.half)
    (failed : settings.reserveSlot slot count cache = .error fault after) :
    ∀ cause, fault ≠ .defect cause := by
  have refused {fault : Fault} {between : SlotBlocks}
      (ended : SlotBlocks.reserveRows slot count 0 settings.samplesPerSlot cache = .error fault between) :
      ∃ cause, fault = .blocks cause :=
    SlotBlocks.reserveRows_refused sound.accounted word short
      (fun place table _ found => vacant place table found) ended
  unfold reserveSlot at failed
  split at failed
  next => cases failed
  next ended =>
    obtain ⟨_, wrong⟩ := refused ended
    cases wrong
  next between proper ended =>
    obtain ⟨cause, rfl⟩ := refused ended
    have later := SlotBlocks.reserveRows_keeps (fun row => (sound_kept slot).reserve row count) 0
      settings.samplesPerSlot cache sound
    rw [ended] at later
    have later : settings.Sound between := later
    obtain ⟨tables, present, -⟩ := later.shaped.present inside
    rw [later.accounted.freeSlot_eq present] at failed
    cases failed
    simp

theorem placeRows_proper (sound : settings.Sound cache) (inside : slot < settings.maxConcurrentDecodes)
    (vacant : cache.Vacant slot) (word : settings.blockSize < Size.limit) (storable : start.Storable)
    (fits : settings.FitsSlot start)
    (failed : settings.placeRows start state slot requestId cache = .error fault after) :
    ∀ cause, fault ≠ .defect cause := by
  unfold placeRows at failed
  rw [storable.counted] at failed
  obtain ⟨seeded, seeding⟩ : ∃ seeded, seedRows start requestId 0 settings.samplesPerSlot = .ok seeded :=
    seedRows_ok storable.scored fits (Nat.le_of_eq (Nat.zero_add _))
  rw [seeding] at failed
  rcases bind_faults failed with wrong | ⟨_, _, counting, reserving⟩
  · cases wrong
  · cases counting
    rcases bind_faults reserving with short | ⟨_, _, _, writing⟩
    · exact reserveSlot_proper sound inside vacant word storable.short.le short
    · cases writing

/-- A prompt that can be stored is refused for its number of samples, a wrong slot or want of blocks only. -/
theorem insertRows_proper (sound : settings.Sound cache) (word : settings.blockSize < Size.limit)
    (storable : start.Storable) (failed : settings.insertRows start state slot requestId cache = .error fault after) :
    ∀ cause, fault ≠ .defect cause := by
  by_cases fits : settings.FitsSlot start
  · by_cases inside : slot < settings.maxConcurrentDecodes
    · obtain ⟨vacated, later, vacant, same⟩ := insertRows_vacant sound inside fits state requestId
      rw [same] at failed
      exact placeRows_proper later inside vacant word storable fits failed
    · have absent : cache.slots[slot]? = none := sound.shaped.absent (Nat.not_lt.mp inside)
      rw [insertRows_eq, if_pos fits, absent] at failed
      cases failed
      simp
  · rw [insertRows_eq, if_neg fits] at failed
    cases failed
    simp

/-- An insert of a fitting prompt that is refused always hands the decode state back. -/
theorem tryInsert_returned (sound : settings.Sound cache) (word : settings.blockSize < Size.limit)
    (fit : start.Fit) {rejected : Rejected DecodeState}
    (failed : settings.tryInsertRows start state slot requestId cache = .error rejected after) :
    rejected.returned = some state := by
  unfold tryInsertRows at failed
  dsimp only at failed
  split at failed
  next => cases failed
  next cause _ ended =>
    rcases bind_faults ended with outside | ⟨_, _, inside, failing⟩
    · obtain ⟨wrong, -⟩ := answer_fault outside
      unfold checkSlot at wrong
      split at wrong <;> cases wrong
    · obtain ⟨-, rfl⟩ := answer_success inside
      exact absurd rfl (insertRows_proper sound word fit.storable failing cause)
  next =>
    cases failed
    rfl

theorem live_of_refused {returned : DecodeState}
    (refused : settings.tryInsertRows start state slot requestId cache = .error ⟨fault, some returned⟩ after)
    {other row : Nat} (live : after.isLive other row = true) : cache.isLive other row = true := by
  obtain ⟨-, ⟨rfl, -⟩ | ⟨emptied, -⟩⟩ := tryInsert_refused refused
  · exact live
  · by_cases here : other = slot
    · rw [here, SlotBlocks.isLive_modify_cleared emptied] at live
      cases live
    · rwa [(SlotBlocks.sameBut_of_cleared emptied).isLive here] at live

end EngineSettings

end SlotServe
