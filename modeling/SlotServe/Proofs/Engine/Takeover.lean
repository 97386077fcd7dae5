import SlotServe.Proofs.Engine.Capacity

/-! A slot that takes up a prompt, whatever it held before. Its own blocks count as free, since they are
given back first; the rows are then seeded afresh, each over as many blocks as the prompt and its first
token need. -/
namespace SlotServe

namespace Executor

variable {σ M P S V : Type}

/-- The decode states that an executor hands out at any point of any sequence of calls. A call may be given
any of them, not only the last. -/
inductive HandsOut (executor : Executor σ M P S V) (first : σ) : S → Prop
  | initState {engine after : σ} {state : S} (reached : executor.Reaches first engine)
      (ok : executor.initState engine = .ok state after) : HandsOut executor first state
  | generate {engine after : σ} {state next : S} {result : ResultBuffer} (reached : executor.Reaches first engine)
      (handed : HandsOut executor first state) (model : M) (sampler : Option Sampler)
      (ok : executor.generate model state sampler engine = .ok (next, result) after) : HandsOut executor first next
  | insert {engine after : σ} {state next : S} (reached : executor.Reaches first engine)
      (handed : HandsOut executor first state) (start : P) (slot : Nat) (requestId : Option RequestId)
      (ok : executor.insert start state slot requestId engine = .ok next after) : HandsOut executor first next
  | tryInsert {engine after : σ} {state next : S} (reached : executor.Reaches first engine)
      (handed : HandsOut executor first state) (start : P) (slot : Nat) (requestId : Option RequestId)
      (ok : executor.tryInsert start state slot requestId engine = .ok next after) : HandsOut executor first next
  | returned {engine after : σ} {state next : S} {fault : Fault} (reached : executor.Reaches first engine)
      (handed : HandsOut executor first state) (start : P) (slot : Nat) (requestId : Option RequestId)
      (refused : executor.tryInsert start state slot requestId engine = .error ⟨fault, some next⟩ after) :
      HandsOut executor first next
  | insertAll {engine after : σ} {state next : S} (reached : executor.Reaches first engine)
      (handed : HandsOut executor first state) (start : P) (slots : List Nat)
      (ok : executor.insertAll start state slots engine = .ok next after) : HandsOut executor first next

end Executor

namespace EngineSettings

variable {settings : EngineSettings} {V : Type} {build : VocabularySource → Except Fault V}
  {cache after : SlotBlocks} {state next : DecodeState} {start : Prefilled} {slot : Nat}
  {requestId : Option RequestId}

theorem insertEach_grid {slots : List Nat} (sound : settings.Sound cache)
    (grid : Grid settings.maxConcurrentDecodes settings.samplesPerSlot state.slots)
    (ok : settings.insertEach start state slots cache = .ok next after) :
    Grid settings.maxConcurrentDecodes settings.samplesPerSlot next.slots := by
  induction slots generalizing state cache with
  | nil =>
    cases ok
    exact grid
  | cons slot rest ih =>
    obtain ⟨middle, between, inserted, ok⟩ := bind_links ok
    have later := (sound_kept slot).insertRows settings start state none cache sound
    rw [inserted] at later
    exact ih later (insertRows_rows sound grid inserted).1 ok

/-- Every slot of a decode state has its rows. -/
theorem grid_of_handed (handed : (settings.executor build).HandsOut settings.freshCache state) :
    Grid settings.maxConcurrentDecodes settings.samplesPerSlot state.slots := by
  induction handed with
  | initState reached ok =>
    cases ok
    exact DecodeState.fresh_grid _ _
  | generate reached handed table sampler ok ih => exact generate_grid ih ok
  | insert reached handed start slot requestId ok ih =>
    exact (insertRows_rows (sound_of_reaches reached) ih (insert_inserted ok).2).1
  | tryInsert reached handed start slot requestId ok ih =>
    exact (insertRows_rows (sound_of_reaches reached) ih (tryInsert_inserted ok).2).1
  | returned reached handed start slot requestId refused ih =>
    obtain ⟨rfl, -⟩ := tryInsert_refused refused
    exact ih
  | insertAll reached handed start slots ok ih =>
    obtain ⟨_, _, checked, inserted⟩ := bind_links ok
    obtain ⟨-, rfl⟩ := answer_success checked
    exact insertEach_grid (sound_of_reaches reached) ih inserted

/-- What a slot that took up a prompt holds: rows that stand at their first tokens, named by the request id
that was given or else by that of the prompt, over just the blocks that the prompt and that token need. -/
structure TakenUp (settings : EngineSettings) (start : Prefilled) (slot : Nat) (requestId : Option RequestId)
    (next : DecodeState) (after : SlotBlocks) : Prop where
  seeded : ∀ row < settings.samplesPerSlot, ∃ token logProb,
    start.firstTokens[start.sampleOf row]? = some token ∧ start.logProbs[start.sampleOf row]? = some logProb ∧
      next.row? slot row = some
        { active := true
          latest := token :: start.context.reverse
          generated := 1
          requestId := requestId <|> start.requestId
          lastLogProb := logProb }
  counted : ∀ row < settings.samplesPerSlot, ∃ table, after.table? slot row = some table ∧
    table.numTokens = start.context.length + 1 ∧
      table.blocks.length = Size.groups (start.context.length + 1) settings.blockSize

theorem insertRows_takenUp (sound : settings.Sound cache) (sized : 0 < settings.blockSize)
    (grid : Grid settings.maxConcurrentDecodes settings.samplesPerSlot state.slots)
    (ok : settings.insertRows start state slot requestId cache = .ok next after) :
    settings.TakenUp start slot requestId next after := by
  have inside := insertRows_inside sound ok
  have later := (sound_kept slot).insertRows settings start state requestId cache sound
  rw [ok] at later
  have later : settings.Sound after := later
  have counts := insertRows_counts sound ok
  obtain ⟨-, ⟨rows, seeded, rfl⟩, -⟩ := insertRows_success ok
  obtain ⟨size, entries⟩ := seedRows_entries seeded
  constructor
  · intro row within
    have bound : row < rows.length := by rwa [size]
    have present : slot < state.slots.length := by rwa [grid.height]
    obtain ⟨first, seeding, entry⟩ := entries row rows[row] (List.getElem?_eq_getElem bound)
    rw [Nat.zero_add] at seeding
    obtain ⟨token, logProb, located, scored, rfl⟩ := DecodeRow.seeded_links seeding
    refine ⟨token, logProb, located, scored, ?_⟩
    rw [DecodeState.row?_setSlot _ _ _ present, if_pos rfl, List.getElem?_eq_getElem bound, entry]
  · intro row within
    obtain ⟨table, found, exact⟩ := counts row within
    have held := (later.accounted.snug slot row table found).exact
    rw [exact, Nat.max_eq_left sized] at held
    exact ⟨table, found, exact, held⟩

/-- An insert touches neither the rows nor the tables of another slot. -/
theorem insertRows_others (ok : settings.insertRows start state slot requestId cache = .ok next after)
    {other : Nat} (different : other ≠ slot) :
    next.slots[other]? = state.slots[other]? ∧ after.slots[other]? = cache.slots[other]? := by
  have sameBut := (sameBut_keptAt slot cache).insertRows settings start state requestId cache rfl
  rw [ok] at sameBut
  obtain ⟨-, ⟨rows, -, rfl⟩, -⟩ := insertRows_success ok
  exact ⟨List.getElem?_set_ne (Ne.symm different), SlotBlocks.SameBut.tables sameBut different⟩

/-- A prompt that a prefill answered can be put into a slot exactly if there is such a slot, the prompt
carries one first token or one for each row, and the free blocks together with those that the slot still
holds suffice for all its rows. The slot then holds the prompt and nothing that was there before, and no
other slot is touched. A block size is a machine word, and a list of tokens is no longer than memory can
address. -/
theorem prompt_taken_up_iff (valid : settings.validate = .ok ()) (word : settings.blockSize < Size.limit)
    (reached : (settings.executor build).Reaches settings.freshCache cache)
    (handed : (settings.executor build).HandsOut settings.freshCache state)
    (returned : settings.Returns start) (addressable : Size.addressable start.context.length 4 = true)
    (slot : Nat) (requestId : Option RequestId) :
    ((∃ next after, (settings.executor build).tryInsert start state slot requestId cache = .ok next after) ↔
      slot < settings.maxConcurrentDecodes ∧
        (start.firstTokens.length = 1 ∨ start.firstTokens.length = settings.samplesPerSlot) ∧
        settings.samplesPerSlot * Size.groups (start.context.length + 1) settings.blockSize ≤
          cache.pool.numFree + (SlotBlocks.held (cache.slots[slot]?.getD [])).length) ∧
    ∀ next after, (settings.executor build).tryInsert start state slot requestId cache = .ok next after →
      settings.TakenUp start slot requestId next after ∧
        ∀ other, other ≠ slot →
          next.slots[other]? = state.slots[other]? ∧ after.slots[other]? = cache.slots[other]? := by
  have sound := sound_of_reaches reached
  have grid := grid_of_handed handed
  have sized : 0 < settings.blockSize :=
    size_of_valid valid (show ("block_size", _) ∈ settings.sizes by simp [sizes])
  have fit : start.Fit := ⟨returned.scored.2, addressable⟩
  refine ⟨⟨?_, ?_⟩, fun next after ok => ?_⟩
  · rintro ⟨next, after, ok⟩
    obtain ⟨inside, fits, -⟩ := tryInsert_success ok
    obtain ⟨tables, present, -⟩ := sound.shaped.present inside
    refine ⟨inside, fits, ?_⟩
    rw [present]
    rcases tryInsert_hinges sound sized word inside present fit fits state requestId with
      ⟨room, -⟩ | ⟨-, fault, between, refused, -⟩
    · exact room
    · cases ok.symm.trans refused
  · rintro ⟨inside, fits, room⟩
    obtain ⟨tables, present, -⟩ := sound.shaped.present inside
    rw [present] at room
    rcases tryInsert_hinges sound sized word inside present fit fits state requestId with ⟨-, granted⟩ | ⟨short, -⟩
    · exact granted
    · exact absurd room short
  · have inserted := (tryInsert_inserted ok).2
    exact ⟨insertRows_takenUp sound sized grid inserted, fun other different => insertRows_others inserted different⟩

/-- A slot is taken up a second time. Its rows hold two of the three blocks, so the free one alone would not
suffice. -/
theorem occupied_slot_taken_up : ∃ start state cache, crowded.Returns start ∧
    (crowded.executor fun _ => .ok ()).Reaches crowded.freshCache cache ∧ cache.isLive 1 0 = true ∧
      ∃ next after, (crowded.executor fun _ => .ok ()).tryInsert start state 1 none cache = .ok next after ∧
        crowded.TakenUp start 1 none next after := by
  have prefilled : crowded.passes ⟨⟨[2, 2], .ofReals [0, 1, 1, 0]⟩⟩ { padded := .ofTokens [1], trueLength := 1 }
      (fun start => decide (start.context = [1] ∧ start.firstTokens.length = 1)) = true := by decide +kernel
  obtain ⟨start, returned, passed⟩ := returns_of_passes prefilled
  obtain ⟨context, single⟩ := of_decide_eq_true passed
  have addressable : Size.addressable start.context.length 4 = true := by
    rw [context]
    decide
  have handed : (crowded.executor fun _ => .ok ()).HandsOut crowded.freshCache crowded.freshState :=
    .initState .start rfl
  -- The first prompt finds three free blocks and an empty slot.
  obtain ⟨⟨-, entered⟩, written⟩ :=
    prompt_taken_up_iff rfl (by decide) .start handed returned addressable 1 none
  obtain ⟨state, cache, ok⟩ := entered ⟨by decide, .inl single, by
    rw [context]
    decide⟩
  obtain ⟨holds, -⟩ := written state cache ok
  obtain ⟨first, found, -, one⟩ := holds.counted 0 (by decide)
  obtain ⟨second, found', -, one'⟩ := holds.counted 1 (by decide)
  have reached : (crowded.executor fun _ => .ok ()).Reaches crowded.freshCache cache := by
    have later : (crowded.executor fun _ => .ok ()).Reaches crowded.freshCache _ :=
      .tryInsert .start start crowded.freshState 1 none
    rwa [ok] at later
  have held : 2 ≤ (SlotBlocks.held (cache.slots[1]?.getD [])).length := by
    obtain ⟨tables, present, located⟩ := Option.bind_eq_some_iff.mp found
    obtain ⟨_, present', located'⟩ := Option.bind_eq_some_iff.mp found'
    cases present.symm.trans present'
    rw [context] at one one'
    match tables, located, located' with
    | _ :: _ :: _, rfl, rfl =>
      rw [present]
      simp [SlotBlocks.held, one, one', crowded, Size.groups]
      omega
  -- The second one takes what the first gives back.
  obtain ⟨⟨-, entered⟩, written⟩ :=
    prompt_taken_up_iff rfl (by decide) reached (.tryInsert .start handed start 1 none ok) returned addressable 1 none
  obtain ⟨next, after, again⟩ := entered ⟨by decide, .inl single, by
    rw [context]
    exact Nat.le_trans held (Nat.le_add_left ..)⟩
  have live : cache.isLive 1 0 = true := by
    have some : first.blocks ≠ [] := by
      rw [← List.length_pos_iff, one, context]
      decide
    simpa [SlotBlocks.isLive, found, BlockTable.isEmpty] using some
  exact ⟨start, state, cache, returned, reached, live, next, after, again, (written next after again).1⟩

end EngineSettings

end SlotServe
