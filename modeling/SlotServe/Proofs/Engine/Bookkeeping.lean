import SlotServe.Proofs.Engine.Levels

/-! The decode rows and the block tables keep the same books. A row that is active and owns blocks has as
many tokens as its table counts, whatever calls came before and however they ended. -/
namespace SlotServe

theorem DecodeState.row?_fresh {numSlots samples slot row : Nat} {entry : DecodeRow}
    (found : (fresh numSlots samples).row? slot row = some entry) : entry = {} := by
  obtain ⟨rows, present, located⟩ := Option.bind_eq_some_iff.mp found
  obtain rfl := List.eq_of_mem_replicate (List.mem_of_getElem? present)
  obtain rfl := List.eq_of_mem_replicate (List.mem_of_getElem? located)
  rfl

theorem DecodeState.fresh_grid (numSlots samples : Nat) : Grid numSlots samples (fresh numSlots samples).slots := by
  have grid := Grid.replicate numSlots (List.replicate samples ({} : DecodeRow))
  rwa [List.length_replicate] at grid

namespace EngineSettings

variable {settings : EngineSettings} {cache after : SlotBlocks} {slot : Nat} {start : Prefilled}
  {state next : DecodeState} {requestId : Option RequestId} {table : TransitionTable} {sampler : Option Sampler}
  {buffer : ResultBuffer}

structure Bookkept (settings : EngineSettings) (state : DecodeState) (cache : SlotBlocks) : Prop where
  level : settings.Level cache
  grid : Grid settings.maxConcurrentDecodes settings.samplesPerSlot state.slots
  uniform : ∀ slot row row' first second, state.row? slot row = some first → state.row? slot row' = some second →
    first.active = second.active
  tracked : ∀ slot row entry table, state.row? slot row = some entry → cache.table? slot row = some table →
    entry.active = true → table.blocks ≠ [] →
    table.numTokens = entry.tokens.length ∧ entry.generated + 1 ≤ entry.tokens.length

theorem bookkept_fresh (level : settings.Level cache) : settings.Bookkept settings.freshState cache := by
  refine ⟨level, DecodeState.fresh_grid _ _, ?_, ?_⟩
  · intro slot row row' first second found found'
    rw [DecodeState.row?_fresh found, DecodeState.row?_fresh found']
  · intro slot row entry table found _ active
    rw [DecodeState.row?_fresh found] at active
    cases active

namespace Bookkept

variable (kept : settings.Bookkept state cache)

include kept

theorem vacated (level : settings.Level after)
    (slots : after.slots = cache.slots.modify slot (·.map BlockTable.cleared)) : settings.Bookkept state after := by
  refine ⟨level, kept.grid, kept.uniform, fun slot' row entry table found counted active some => ?_⟩
  have sameBut := SlotBlocks.sameBut_of_cleared slots
  by_cases here : slot' = slot
  · subst slot'
    have idle := SlotBlocks.isLive_modify_cleared slots row
    simp only [SlotBlocks.isLive, counted, Option.any_some, Bool.not_eq_false', BlockTable.isEmpty,
      List.isEmpty_iff] at idle
    exact absurd idle some
  · rw [sameBut.table? here] at counted
    exact kept.tracked slot' row entry table found counted active some

theorem inserted (word : settings.blockSize < Size.limit) (fit : start.Fit) (some : start.context ≠ [])
    (ok : settings.insertRows start state slot requestId cache = .ok next after) : settings.Bookkept next after := by
  have level := level_insertRows word fit state slot requestId cache kept.level
  have sameBut : SlotBlocks.SameBut slot cache after := by
    have left := (sameBut_keptAt slot cache).insertRows settings start state requestId cache rfl
    rwa [ok] at left
  rw [ok] at level
  have counts := insertRows_counts kept.level.sound ok
  obtain ⟨grid, seeded, others⟩ := insertRows_rows kept.level.sound kept.grid ok
  have starts {row : Nat} {entry : DecodeRow} (found : next.row? slot row = Option.some entry) :
      entry.StartsAt start (start.sampleOf row) := by
    obtain ⟨entry', found', starts⟩ := seeded row (grid.inside found).2
    obtain rfl := Option.some.inj (found.symm.trans found')
    exact starts
  refine ⟨level, grid, ?_, ?_⟩
  · intro slot' row row' first second found found'
    by_cases here : slot' = slot
    · subst slot'
      rw [(starts found).active, (starts found').active]
    · rw [others slot' _ here] at found found'
      exact kept.uniform slot' row row' first second found found'
  · intro slot' row entry table found counted active owning
    by_cases here : slot' = slot
    · subst slot'
      have starts := starts found
      obtain ⟨token, -, tokens⟩ := starts.first
      obtain ⟨table', counted', exact⟩ := counts row (grid.inside found).2
      obtain rfl := Option.some.inj (counted.symm.trans counted')
      have prompt := List.length_pos_of_ne_nil some
      rw [tokens, starts.generated, List.length_append, List.length_singleton]
      exact ⟨exact, by omega⟩
    · rw [others slot' row here] at found
      rw [sameBut.table? here] at counted
      exact kept.tracked slot' row entry table found counted active owning

end Bookkept

theorem generate_rows (ok : settings.generate table state sampler cache = .ok (next, buffer) after) {row : Nat}
    {entry : DecodeRow} (found : next.row? slot row = some entry) :
    ∃ old, state.row? slot row = some old ∧ entry.active = (old.active && cache.isLive slot row) ∧
      (entry.active = true → ∃ token logProb counts granted, entry = old.push token logProb ∧
        cache.table? slot row = some counts ∧ after.table? slot row = some (counts.grown granted 1)) := by
  obtain ⟨stepped, -⟩ := generate_links ok
  by_cases member : (slot, row) ∈ (stepping (settle cache state)).map placeOf
  · obtain ⟨⟨_, _, last⟩, stepping, same⟩ := List.mem_map.mp member
    cases same
    obtain ⟨old, settled, active, -⟩ := mem_stepping.mp stepping
    obtain ⟨present, live⟩ := settle_active settled active
    obtain ⟨token, -, ⟨logProb, pushed⟩, -, counts, granted, counted, grown⟩ := stepRows_stepped stepped _ stepping
    rw [settled, found] at pushed
    obtain rfl := Option.some.inj pushed
    refine ⟨old, present, ?_, fun _ => ⟨token, logProb, counts, granted, rfl, counted, grown⟩⟩
    rw [live, Bool.and_true]
    rfl
  · have still := ((stepRows_links stepped).1 slot row member).1
    rw [found] at still
    have idle : entry.active = false := by
      by_contra active
      rw [Bool.not_eq_false] at active
      exact member (List.mem_map.mpr ⟨_, mem_stepping.mpr ⟨entry, still.symm, active, rfl⟩, rfl⟩)
    rw [row?_settle] at still
    obtain ⟨old, present, settled⟩ := Option.map_eq_some_iff.mp still.symm
    refine ⟨old, present, ?_, fun active => absurd active (by simp [idle])⟩
    rw [idle]
    by_cases stopped : (old.active && !cache.isLive slot row) = true
    · have idle : cache.isLive slot row = false := by simpa using (Bool.and_eq_true_iff.mp stopped).2
      rw [idle, Bool.and_false]
    · rw [if_neg stopped] at settled
      rw [settled, idle, Bool.false_and]

theorem Bookkept.generated (kept : settings.Bookkept state cache)
    (ok : settings.generate table state sampler cache = .ok (next, buffer) after) : settings.Bookkept next after := by
  have level := level_generate table state sampler cache kept.level
  rw [ok] at level
  refine ⟨level, generate_grid kept.grid ok, ?_, ?_⟩
  · intro slot row row' first second found found'
    obtain ⟨old, present, active, -⟩ := generate_rows ok found
    obtain ⟨old', present', active', -⟩ := generate_rows ok found'
    rw [active, active', kept.uniform slot row row' old old' present present',
      kept.level.even slot row row' (kept.grid.inside present).2 (kept.grid.inside present').2]
  · intro slot row entry counts found counted active owning
    obtain ⟨old, present, live, stepped⟩ := generate_rows ok found
    obtain ⟨token, logProb, before, granted, rfl, counted', grown⟩ := stepped active
    obtain rfl := Option.some.inj (grown.symm.trans counted)
    have both : old.active = true ∧ cache.isLive slot row = true := by
      rw [active] at live
      simpa using live.symm
    have owned : before.blocks ≠ [] := by
      have live := both.2
      simpa [SlotBlocks.isLive, counted', BlockTable.isEmpty] using live
    obtain ⟨exact, enough⟩ := kept.tracked slot row old before present counted' both.1 owned
    rw [DecodeRow.tokens_push, List.length_append, List.length_singleton, BlockTable.grown, exact]
    exact ⟨rfl, Nat.succ_le_succ enough⟩

theorem Bookkept.insertedEach (kept : settings.Bookkept state cache) (word : settings.blockSize < Size.limit)
    (fit : start.Fit) (some : start.context ≠ []) {slots : List Nat}
    (ok : settings.insertEach start state slots cache = .ok next after) : settings.Bookkept next after := by
  induction slots generalizing state cache with
  | nil =>
    cases ok
    exact kept
  | cons slot rest ih =>
    obtain ⟨between, middle, inserted, ok⟩ := bind_links ok
    exact ih (kept.inserted word fit some inserted) ok

theorem Bookkept.refused (kept : settings.Bookkept state cache) (word : settings.blockSize < Size.limit)
    (fit : start.Fit) {fault : Fault} {returned : DecodeState}
    (refused : settings.tryInsertRows start state slot requestId cache = .error ⟨fault, some returned⟩ after) :
    settings.Bookkept returned after := by
  have level := level_tryInsertRows word fit state slot requestId cache kept.level
  rw [refused] at level
  obtain ⟨rfl, course⟩ := tryInsert_refused refused
  rcases course with ⟨rfl, -⟩ | ⟨slots, -⟩
  · exact kept
  · exact kept.vacated level slots

theorem Bookkept.freed (kept : settings.Bookkept state cache) (slot : Nat) :
    settings.Bookkept state (left (settings.free slot cache)) := by
  have level := level_free slot cache kept.level
  rw [left_free] at level ⊢
  split at level
  next inside =>
    rw [if_pos inside]
    exact kept.vacated level (SlotBlocks.slots_freeSlot cache slot)
  next outside => rwa [if_neg outside]

section

variable {V : Type} {build : VocabularySource → Except Fault V}

theorem Bookkept.performed (kept : settings.Bookkept state cache) (word : settings.blockSize < Size.limit)
    {call : EngineCall} (fit : ∀ start ∈ call.starts, start.Fit ∧ start.context ≠ [])
    (ok : call.perform (settings.executor build) state cache = .ok next after) : settings.Bookkept next after := by
  have done := EngineCall.perform_success ok
  cases call with
  | insert start slot requestId | tryInsert start slot requestId =>
    obtain ⟨fit, some⟩ := fit start (by simp [EngineCall.starts])
    exact kept.inserted word fit some done
  | insertAll start slots =>
    obtain ⟨fit, some⟩ := fit start (by simp [EngineCall.starts])
    exact kept.insertedEach word fit some done
  | generate table sampler =>
    obtain ⟨buffer, generated⟩ := done
    exact kept.generated generated
  | free slot =>
    obtain ⟨rfl, freed⟩ := done
    have kept := kept.freed slot
    rwa [freed] at kept

theorem Bookkept.returned (kept : settings.Bookkept state cache) (word : settings.blockSize < Size.limit)
    {call : EngineCall} (fit : ∀ start ∈ call.starts, start.Fit ∧ start.context ≠ []) {fault : Fault}
    (failed : call.perform (settings.executor build) state cache = .error ⟨fault, some next⟩ after) :
    settings.Bookkept next after := by
  cases call with
  | insert start slot requestId => cases consuming_returned failed
  | tryInsert start slot requestId =>
    obtain ⟨fit, -⟩ := fit start (by simp [EngineCall.starts])
    exact kept.refused word fit failed
  | insertAll start slots => cases consuming_returned failed
  | generate table sampler => cases consuming_returned failed
  | free slot =>
    obtain ⟨same, rfl⟩ := beside_returned failed
    cases same
    exact kept.freed slot

theorem Bookkept.call (kept : settings.Bookkept state cache) (word : settings.blockSize < Size.limit)
    {call : EngineCall} (fit : ∀ start ∈ call.starts, start.Fit ∧ start.context ≠ []) :
    settings.Bookkept (settings.afterCall build (state, cache) call).1
      (settings.afterCall build (state, cache) call).2 := by
  have level := level_call build word call (fun start member => (fit start member).1) state cache kept.level
  unfold afterCall
  dsimp only
  cases ended : call.perform (settings.executor build) state cache with
  | ok next after => exact kept.performed word fit ended
  | error rejected after =>
    rw [ended] at level
    obtain ⟨fault, returned⟩ := rejected
    cases returned with
    | none => exact bookkept_fresh level
    | some returned => exact kept.returned word fit ended

theorem Bookkept.calls {point : DecodeState × SlotBlocks} (kept : settings.Bookkept point.1 point.2)
    (word : settings.blockSize < Size.limit) {calls : List EngineCall}
    (fit : ∀ call ∈ calls, ∀ start ∈ call.starts, start.Fit ∧ start.context ≠ []) :
    settings.Bookkept (calls.foldl (settings.afterCall build) point).1
      (calls.foldl (settings.afterCall build) point).2 := by
  induction calls generalizing point with
  | nil => exact kept
  | cons call rest ih =>
    exact ih (kept.call word (fit call (by simp))) fun other member => fit other (List.mem_cons_of_mem _ member)

/-- All rows of a slot own blocks or none does, all of them decode or none does, and a row that decodes
and owns blocks has as many tokens as its table counts and holds the blocks that these need. -/
structure BooksAgree (settings : EngineSettings) (state : DecodeState) (cache : SlotBlocks) : Prop where
  owning : ∀ slot < settings.maxConcurrentDecodes, ∃ live, ∀ row < settings.samplesPerSlot,
    cache.isLive slot row = live
  decoding : ∀ slot < settings.maxConcurrentDecodes, ∃ active, ∀ row < settings.samplesPerSlot,
    ∃ entry, state.row? slot row = some entry ∧ entry.active = active
  counted : ∀ slot < settings.maxConcurrentDecodes, ∀ row < settings.samplesPerSlot, ∃ entry table,
    state.row? slot row = some entry ∧ cache.table? slot row = some table ∧
      (entry.active = true → table.blocks ≠ [] → table.numTokens = entry.tokens.length ∧
        table.blocks.length = Size.groups entry.tokens.length settings.blockSize ∧
        entry.generated + 1 ≤ entry.tokens.length)

theorem Bookkept.agree (valid : settings.validate = .ok ()) (kept : settings.Bookkept state cache) :
    settings.BooksAgree state cache := by
  have rows : 0 < settings.samplesPerSlot :=
    size_of_valid valid (show ("samples_per_slot", _) ∈ settings.sizes by simp [sizes])
  have block : max settings.blockSize 1 = settings.blockSize :=
    Nat.max_eq_left (size_of_valid valid (show ("block_size", _) ∈ settings.sizes by simp [sizes]))
  refine ⟨fun slot inside => ?_, fun slot inside => ?_, fun slot inside row within => ?_⟩
  · exact ⟨cache.isLive slot 0, fun row within => kept.level.even slot row 0 within rows⟩
  · obtain ⟨first, found⟩ := kept.grid.entry inside rows
    refine ⟨first.active, fun row within => ?_⟩
    obtain ⟨entry, present⟩ := kept.grid.entry inside within
    exact ⟨entry, present, kept.uniform slot row 0 entry first present found⟩
  · obtain ⟨entry, present⟩ := kept.grid.entry inside within
    obtain ⟨table, found⟩ := kept.level.sound.shaped.found inside within
    refine ⟨entry, table, present, found, fun active owning => ?_⟩
    obtain ⟨exact, enough⟩ := kept.tracked slot row entry table present found active owning
    have held := (kept.level.sound.accounted.snug slot row table found).exact
    rw [exact, block] at held
    exact ⟨exact, held, enough⟩

/-- The books agree whatever calls were made with prompts that prefills answered, and however the calls
ended. A block size is a machine word, and a list of tokens is no longer than memory can address. -/
theorem books_agree_after_calls (build : VocabularySource → Except Fault V) (valid : settings.validate = .ok ())
    (word : settings.blockSize < Size.limit) (calls : List EngineCall)
    (returned : ∀ call ∈ calls, ∀ start ∈ call.starts,
      settings.Returns start ∧ Size.addressable start.context.length 4 = true) :
    settings.BooksAgree (settings.afterCalls build calls).1 (settings.afterCalls build calls).2 := by
  have fit (call : EngineCall) (member : call ∈ calls) :
      ∀ start ∈ call.starts, start.Fit ∧ start.context ≠ [] := by
    intro start started
    obtain ⟨returns, addressable⟩ := returned call member start started
    obtain ⟨some, scored⟩ := returns.scored
    exact ⟨⟨scored, addressable⟩, some⟩
  have kept : settings.Bookkept settings.freshState settings.freshCache := bookkept_fresh freshCache_level
  exact (kept.calls word fit).agree valid

end

def crowded : EngineSettings :=
  { maxConcurrentDecodes := 2, samplesPerSlot := 2, vocabSize := 2, blockSize := 2, numBlocks := 3 }

/-- The step grows the first row and then fails for want of a block; the slot is taken up again after. -/
def crowdedCalls (start : Prefilled) : List EngineCall :=
  [.insert start 0 none, .generate ⟨⟨[2, 2], .ofReals [0, 1, 1, 0]⟩⟩ none, .tryInsert start 1 none,
    .insertAll start [0]]

theorem books_agree_after_failed_step :
    ∃ start, crowded.Returns start ∧ start.context = [1] ∧
      crowded.BooksAgree (crowded.afterCalls (fun _ => .ok ()) (crowdedCalls start)).1
        (crowded.afterCalls (fun _ => .ok ()) (crowdedCalls start)).2 := by
  have prefilled : (match crowded.prefill ⟨⟨[2, 2], .ofReals [0, 1, 1, 0]⟩⟩ { padded := .ofTokens [1], trueLength := 1 }
      with
      | .ok (start, _) => decide (start.context = [1])
      | .error _ => false) = true := by decide +kernel
  cases ended : crowded.prefill ⟨⟨[2, 2], .ofReals [0, 1, 1, 0]⟩⟩ { padded := .ofTokens [1], trueLength := 1 } with
  | error => simp [ended] at prefilled
  | ok found =>
    obtain ⟨start, buffer⟩ := found
    have context : start.context = [1] := by simpa [ended] using prefilled
    have returns : crowded.Returns start := .prefill ended
    refine ⟨start, returns, context, books_agree_after_calls _ rfl (by decide) (crowdedCalls start) ?_⟩
    intro call member other started
    have same : other = start := by
      simp only [crowdedCalls, List.mem_cons, List.not_mem_nil, or_false] at member
      rcases member with rfl | rfl | rfl | rfl
      · exact List.mem_singleton.mp started
      · cases started
      · exact List.mem_singleton.mp started
      · exact List.mem_singleton.mp started
    rw [same, context]
    exact ⟨returns, by decide⟩

end EngineSettings

end SlotServe
