import SlotServe.Proofs.Engine.Capacity
import SlotServe.Proofs.Serve.Prompts
import SlotServe.Proofs.Serve.Release

/-! What holds between the moves of a run. Every occupant of a slot has emitted the same number of tokens on
each of its samples, never more than were asked for, and each row of its slot stores the prompt and these
tokens. Requests that wait or decode are among those submitted. -/
namespace SlotServe

variable {V : Type} {settings : EngineSettings} {build : VocabularySource → Except Fault V} {vocabulary : Nat}
  {cells : List UInt32}

namespace Occupant

def emitted (occupant : Occupant) : Nat := (occupant.samples.head?.map (·.length)).getD 0

def owed (occupant : Occupant) : Nat := occupant.request.maxNewTokens - occupant.emitted

structure Decodes (settings : EngineSettings) (vocabulary : Nat) (state : DecodeState) (cache : SlotBlocks)
    (slot : Nat) (occupant : Occupant) : Prop where
  width : occupant.samples.length = settings.samplesPerSlot
  even : ∀ sample ∈ occupant.samples, sample.length = occupant.emitted
  begun : 0 < occupant.emitted
  within : occupant.emitted ≤ max occupant.request.maxNewTokens 1
  rows : ∀ row < settings.samplesPerSlot, ∃ entry table, state.row? slot row = some entry ∧ entry.active = true ∧
    (entry.lastToken.getD 0).toNat < vocabulary ∧ cache.table? slot row = some table ∧
    table.numTokens = occupant.request.prompt.length + occupant.emitted

variable {occupant : Occupant} {state next : DecodeState} {cache after : SlotBlocks} {slot : Nat}

theorem emitted_of_even {count : Nat} (some : occupant.samples ≠ [])
    (even : ∀ sample ∈ occupant.samples, sample.length = count) : occupant.emitted = count := by
  obtain ⟨first, rest, shape⟩ := List.exists_cons_of_ne_nil some
  rw [emitted, shape]
  exact even first (by simp [shape])

theorem isDone_iff (some : occupant.samples ≠ [])
    (even : ∀ sample ∈ occupant.samples, sample.length = occupant.emitted) :
    occupant.isDone = true ↔ occupant.request.maxNewTokens ≤ occupant.emitted := by
  rw [isDone, List.all_eq_true]
  constructor
  · intro enough
    obtain ⟨first, rest, shape⟩ := List.exists_cons_of_ne_nil some
    have member : first ∈ occupant.samples := by simp [shape]
    rw [← even first member]
    exact of_decide_eq_true (enough first member)
  · intro enough sample member
    rw [even sample member]
    exact decide_eq_true enough

namespace Decodes

theorem frame (decodes : occupant.Decodes settings vocabulary state cache slot)
    (rows : ∀ row, next.row? slot row = state.row? slot row)
    (tables : ∀ row, after.table? slot row = cache.table? slot row) :
    occupant.Decodes settings vocabulary next after slot := by
  refine { decodes with rows := fun row inside => ?_ }
  rw [rows, tables]
  exact decodes.rows row inside

theorem samples_ne_nil (decodes : occupant.Decodes settings vocabulary state cache slot)
    (positive : 0 < settings.samplesPerSlot) : occupant.samples ≠ [] := by
  rw [List.ne_nil_iff_length_pos, decodes.width]
  exact positive

theorem unfinished (decodes : occupant.Decodes settings vocabulary state cache slot)
    (positive : 0 < settings.samplesPerSlot) (busy : occupant.isDone = false) :
    occupant.emitted < occupant.request.maxNewTokens := by
  by_contra enough
  rw [(isDone_iff (decodes.samples_ne_nil positive) decodes.even).mpr (by omega)] at busy
  cases busy

theorem live (decodes : occupant.Decodes settings vocabulary state cache slot) (sound : settings.Sound cache)
    {row : Nat}
    (inside : row < settings.samplesPerSlot) : cache.isLive slot row = true := by
  obtain ⟨entry, table, -, -, -, found, counted⟩ := decodes.rows row inside
  have snug := sound.accounted.snug slot row table found
  have begun := decodes.begun
  have some : table.blocks ≠ [] := by
    intro none
    have nothing := snug.tokens_eq_zero none
    omega
  simp [SlotBlocks.isLive, found, BlockTable.isEmpty, some]

theorem inserted {request : Request} {start : Prefilled} {requestId : Option RequestId} (sound : settings.Sound cache)
    (grid : Grid settings.maxConcurrentDecodes settings.samplesPerSlot state.slots)
    (positive : 0 < settings.samplesPerSlot) (suits : start.Suits settings vocabulary request)
    (same : occupant.request = request) (width : occupant.samples.length = settings.samplesPerSlot)
    (single : ∀ sample ∈ occupant.samples, sample.length = 1)
    (ok : settings.insertRows start state slot requestId cache = .ok next after) :
    occupant.Decodes settings vocabulary next after slot := by
  have some : occupant.samples ≠ [] := by
    rw [List.ne_nil_iff_length_pos, width]
    exact positive
  have one := emitted_of_even some single
  refine ⟨width, one ▸ single, one ▸ Nat.one_pos, one ▸ Nat.le_max_right _ _, fun row inside => ?_⟩
  obtain ⟨-, seeded, -⟩ := EngineSettings.insertRows_rows sound grid ok
  obtain ⟨entry, found, starts⟩ := seeded row inside
  obtain ⟨table, counted, exact⟩ := EngineSettings.insertRows_counts sound ok row inside
  obtain ⟨token, located, -⟩ := starts.first
  refine ⟨entry, table, found, starts.active, ?_, counted, ?_⟩
  · rw [starts.lastToken, located]
    exact suits.known token (List.mem_of_getElem? located)
  · rw [exact, one, suits.length, same]

theorem stepped {table : TransitionTable} (bounded : table.Bounded vocabulary) (sound : settings.Sound cache)
    (grid : Grid settings.maxConcurrentDecodes settings.samplesPerSlot state.slots)
    (positive : 0 < settings.samplesPerSlot) (decodes : occupant.Decodes settings vocabulary state cache slot)
    (busy : occupant.isDone = false) {buffer : ResultBuffer} {grown : Occupant}
    (generated : settings.generate table state none cache = .ok (next, buffer) after)
    (absorbed : occupant.absorb buffer slot = .ok grown) :
    grown.request = occupant.request ∧ grown.emitted = occupant.emitted + 1 ∧
      grown.Decodes settings vocabulary next after slot := by
  have unfinished := decodes.unfinished positive busy
  have begun := decodes.begun
  obtain ⟨read, rfl, shows⟩ := EngineSettings.absorb_generated grid generated absorbed
  -- Each row of the slot got a token, and its table counts it.
  have pushed {row : Nat} (inside : row < settings.samplesPerSlot) : ∃ entry token counts counts',
      next.row? slot row = some entry ∧ entry.active = true ∧ entry.lastToken = some token ∧
        token.toNat < vocabulary ∧ cache.table? slot row = some counts ∧
        counts.numTokens = occupant.request.prompt.length + occupant.emitted ∧
        after.table? slot row = some counts' ∧ counts'.numTokens = counts.numTokens + 1 := by
    obtain ⟨entry, counts, found, active, -, counted, exact⟩ := decodes.rows row inside
    obtain ⟨token, logProb, picks, pushed⟩ :=
      EngineSettings.generate_picks generated found active (decodes.live sound inside)
    obtain ⟨_, -, -, counting⟩ := EngineSettings.generate_rows generated pushed
    obtain ⟨_, _, counts', granted, -, counted', grown⟩ := counting active
    obtain rfl := Option.some.inj (counted.symm.trans counted')
    exact ⟨_, token, counts, _, pushed, active, rfl, bounded.picked picks, counted, exact, grown, rfl⟩
  have width : (append occupant.samples read).length = settings.samplesPerSlot :=
    (length_append _ _).trans decodes.width
  have longer : ∀ sample ∈ append occupant.samples read, sample.length = occupant.emitted + 1 := by
    intro sample member
    obtain ⟨row, present⟩ := List.mem_iff_getElem?.mp member
    have inside : row < settings.samplesPerSlot := width ▸ (List.getElem?_eq_some_iff.mp present).1
    have before := List.getElem?_eq_getElem (decodes.width.symm ▸ inside : row < occupant.samples.length)
    obtain ⟨entry, token, -, -, found, active, last, -⟩ := pushed inside
    obtain ⟨shown, opposite, valid⟩ := shows row entry token found active last
    rw [append_row before opposite, valid] at present
    obtain rfl := Option.some.inj present
    exact congrArg (· + 1) (decodes.even _ (List.mem_of_getElem? before))
  have some : append occupant.samples read ≠ [] := by
    rw [List.ne_nil_iff_length_pos, width]
    exact positive
  have more : Occupant.emitted { occupant with samples := append occupant.samples read } = occupant.emitted + 1 :=
    emitted_of_even some longer
  refine ⟨rfl, more, width, more ▸ longer, more ▸ Nat.succ_pos _, more ▸ ?_, fun row inside => ?_⟩
  · exact Nat.le_trans unfinished (Nat.le_max_left _ _)
  · obtain ⟨entry, token, counts, counts', found, active, last, known, -, exact, grown, counted⟩ := pushed inside
    refine ⟨entry, counts', found, active, ?_, grown, ?_⟩
    · rwa [last]
    · rw [counted, exact, more, Nat.add_assoc]

end Decodes

end Occupant

structure Scene.Steady (settings : EngineSettings) (vocabulary : Nat) (requests : List Request)
    (scene : Scene (Front SlotBlocks) DecodeState) : Prop where
  attended : scene.board.Attended settings none
  grid : Grid settings.maxConcurrentDecodes settings.samplesPerSlot scene.state.slots
  width : scene.board.slots.length = settings.maxConcurrentDecodes
  queued : scene.waiting ⊆ requests
  seated : ∀ slot (occupant : Occupant), scene.board.slots[slot]? = some (some occupant) → occupant.request ∈ requests ∧
    occupant.Decodes settings vocabulary scene.state scene.board.engine.inner slot

/-- The scheduler runs over an executor with valid settings, and the tokens from its table are below
`vocabulary`. A block size is a machine word. -/
structure Scheduler.Hosts (scheduler : Scheduler (Front SlotBlocks) TransitionTable Prefilled DecodeState V)
    (settings : EngineSettings) (build : VocabularySource → Except Fault V) (vocabulary : Nat) : Prop where
  serving : scheduler.executor = (settings.executor build).front
  valid : settings.validate = .ok ()
  word : settings.blockSize < Size.limit
  bounded : scheduler.model.Bounded vocabulary

structure Scheduler.Serves (scheduler : Scheduler (Front SlotBlocks) TransitionTable Prefilled DecodeState V)
    (settings : EngineSettings) (build : VocabularySource → Except Fault V) (vocabulary : Nat)
    (cells : List UInt32) : Prop where
  serving : scheduler.executor = (settings.executor build).front
  valid : settings.validate = .ok ()
  word : settings.blockSize < Size.limit
  square : scheduler.model.Square vocabulary cells

theorem Scheduler.Serves.hosts {scheduler : Scheduler (Front SlotBlocks) TransitionTable Prefilled DecodeState V}
    (serves : scheduler.Serves settings build vocabulary cells) : scheduler.Hosts settings build vocabulary :=
  ⟨serves.serving, serves.valid, serves.word, serves.square.bounded⟩

theorem Front.onInner_fault {σ ε α : Type} {act : EStateM ε σ α} {front after : Front σ} {fault : ε}
    (failed : Front.onInner act front = .error fault after) : act front.inner = .error fault after.inner := by
  obtain ⟨inner, ended, rfl⟩ := zoom_fault failed
  exact ended

def Board.Busy {σ : Type} (board : Board σ) : Prop :=
  ∀ (slot : Nat) (occupant : Occupant), board.slots[slot]? = some (some occupant) → occupant.isDone = false

namespace Scheduler

variable {scheduler : Scheduler (Front SlotBlocks) TransitionTable Prefilled DecodeState V}
  (hosts : scheduler.Hosts settings build vocabulary)

include hosts

namespace Hosts

theorem slots : 0 < settings.maxConcurrentDecodes :=
  EngineSettings.size_of_valid hosts.valid (List.mem_cons_self ..)

theorem positive : 0 < settings.samplesPerSlot :=
  EngineSettings.size_of_valid hosts.valid
    (show ("samples_per_slot", _) ∈ settings.sizes by simp [EngineSettings.sizes])

theorem sized : 0 < settings.blockSize :=
  EngineSettings.size_of_valid hosts.valid (show ("block_size", _) ∈ settings.sizes by simp [EngineSettings.sizes])

variable {start : Prefilled} {state next : DecodeState} {slot : Nat} {requestId : Option RequestId}
  {engine after : Front SlotBlocks} {fault : Fault}

theorem tryInsert_ok (ok : scheduler.executor.tryInsert start state slot requestId engine = .ok next after) :
    settings.tryInsertRows start state slot requestId engine.inner = .ok next after.inner := by
  rw [hosts.serving] at ok
  exact Front.onInner_success ok

theorem tryInsert_error {rejected : Rejected DecodeState}
    (failed : scheduler.executor.tryInsert start state slot requestId engine = .error rejected after) :
    settings.tryInsertRows start state slot requestId engine.inner = .error rejected after.inner := by
  rw [hosts.serving] at failed
  exact Front.onInner_fault failed

theorem generate_ok {shown : DecodeState × ResultBuffer}
    (ok : scheduler.executor.generate scheduler.model state none engine = .ok shown after) :
    settings.generate scheduler.model state none engine.inner = .ok shown after.inner := by
  rw [hosts.serving] at ok
  exact Front.onInner_success ok

theorem generate_error (failed : scheduler.executor.generate scheduler.model state none engine = .error fault after) :
    settings.generate scheduler.model state none engine.inner = .error fault after.inner := by
  rw [hosts.serving] at failed
  exact Front.onInner_fault failed

end Hosts

end Scheduler

namespace Scene.Steady

open Scheduler

variable {scheduler : Scheduler (Front SlotBlocks) TransitionTable Prefilled DecodeState V}
  {requests waiting rest : List Request} {state next : DecodeState} {tried tries slot : Nat}
  {board : Board (Front SlotBlocks)} {engine : Front SlotBlocks} {report : Report} {occupant : Occupant}
  {start : Prefilled} {request : Request} {requestId : Option RequestId}

theorem quiet (steady : Scene.Steady settings vocabulary requests ⟨board, waiting, state, tried⟩)
    (fewer : rest ⊆ waiting) :
    Scene.Steady settings vocabulary requests ⟨⟨board.slots, report, board.engine⟩, rest, state, tries⟩ :=
  { steady with
    attended := ⟨steady.attended.sound, steady.attended.taken⟩
    queued := List.Subset.trans fewer steady.queued }

section

variable (hosts : scheduler.Hosts settings build vocabulary)

include hosts

theorem refuse {fault : Fault} (steady : Scene.Steady settings vocabulary requests ⟨board, waiting, state, tried⟩)
    (free : board.firstFree = some slot)
    (refused : scheduler.executor.tryInsert start state slot requestId board.engine =
      .error ⟨fault, some next⟩ engine) (fewer : rest ⊆ waiting) :
    Scene.Steady settings vocabulary requests ⟨⟨board.slots, report, engine⟩, rest, next, tries⟩ := by
  have inner := hosts.tryInsert_error refused
  have sameBut := (EngineSettings.sameBut_keptAt slot board.engine.inner).tryInsertRows settings start state requestId
    _ rfl
  rw [inner] at sameBut
  obtain ⟨rfl, -⟩ := EngineSettings.tryInsert_refused inner
  have attended := steady.attended.refused inner
  refine ⟨⟨attended.sound, attended.taken⟩, steady.grid, steady.width, List.Subset.trans fewer steady.queued, ?_⟩
  intro other occupant taken
  obtain ⟨member, decodes⟩ := steady.seated other occupant taken
  have different : other ≠ slot := by
    rintro rfl
    cases (Board.free_of_firstFree free).symm.trans taken
  exact ⟨member, decodes.frame (fun _ => rfl) (sameBut.table? different)⟩

theorem seat (steady : Scene.Steady settings vocabulary requests ⟨board, request :: waiting, state, tried⟩)
    (free : board.firstFree = some slot) (suits : start.Suits settings vocabulary request)
    (same : occupant.request = request) (count : occupant.samples.length = settings.samplesPerSlot)
    (single : ∀ sample ∈ occupant.samples, sample.length = 1)
    (inserted : scheduler.executor.tryInsert start state slot requestId board.engine = .ok next engine) :
    Scene.Steady settings vocabulary requests
      ⟨⟨board.slots.set slot (some occupant), report, engine⟩, waiting, next, tries⟩ := by
  have inner := hosts.tryInsert_ok inserted
  obtain ⟨-, entered⟩ := EngineSettings.tryInsert_inserted inner
  have sameBut := (EngineSettings.sameBut_keptAt slot board.engine.inner).tryInsertRows settings start state requestId
    _ rfl
  rw [inner] at sameBut
  have sound := steady.attended.sound
  obtain ⟨grid, -, others⟩ := EngineSettings.insertRows_rows sound steady.grid entered
  have inside := (List.getElem?_eq_some_iff.mp (Board.free_of_firstFree free)).1
  have attended := (steady.attended.inserted inner).occupy inside occupant
  refine ⟨⟨attended.sound, attended.taken⟩, grid, (List.length_set ..).trans steady.width,
    fun other member => steady.queued (List.mem_cons_of_mem _ member), fun other sitting taken => ?_⟩
  by_cases here : other = slot
  · subst here
    rw [List.getElem?_set_self inside] at taken
    cases taken
    exact ⟨same ▸ steady.queued (List.mem_cons_self ..),
      .inserted sound steady.grid hosts.positive suits same count single entered⟩
  · rw [List.getElem?_set_ne (Ne.symm here)] at taken
    obtain ⟨member, decodes⟩ := steady.seated other sitting taken
    exact ⟨member, decodes.frame (fun row => others other row here) (sameBut.table? here)⟩

theorem leave (steady : Scene.Steady settings vocabulary requests ⟨board, waiting, state, tried⟩)
    (held : board.slots[slot]? = some (some occupant))
    (freed : scheduler.executor.free slot board.engine = .ok () engine) :
    Scene.Steady settings vocabulary requests
      ⟨⟨board.slots.set slot none, report, engine⟩, waiting, state, tried⟩ := by
  let vacated : Board (Front SlotBlocks) := { board with slots := board.slots.set slot none }
  have attended : (left (Board.onEngine (scheduler.executor.free slot) vacated)).Attended settings none :=
    free_attended hosts.serving (steady.attended.vacate slot)
  have freeing : scheduler.executor.free slot vacated.engine = .ok () engine := freed
  rw [Board.onEngine_ok freeing] at attended
  have sameBut := (EngineSettings.sameBut_keptAt slot board.engine.inner).free settings board.engine.inner rfl
  have freeing := left_free hosts.serving slot board.engine
  rw [freed] at freeing
  obtain rfl : engine = _ := freeing
  refine ⟨⟨attended.sound, attended.taken⟩, steady.grid, (List.length_set ..).trans steady.width, steady.queued, ?_⟩
  intro other sitting taken
  by_cases here : other = slot
  · subst here
    rw [List.getElem?_set_self (List.getElem?_eq_some_iff.mp held).1] at taken
    cases taken
  · rw [List.getElem?_set_ne (Ne.symm here)] at taken
    obtain ⟨member, decodes⟩ := steady.seated other sitting taken
    exact ⟨member, decodes.frame (fun _ => rfl) (sameBut.table? here)⟩

theorem step (steady : Scene.Steady settings vocabulary requests ⟨board, waiting, state, tried⟩)
    (busy : board.Busy) {buffer copied : ResultBuffer} {slots : List (Option Occupant)}
    (generated : scheduler.executor.generate scheduler.model state none board.engine = .ok (next, buffer) engine)
    (host : buffer.toHost = .ok copied) (absorbed : absorbAll copied 0 board.slots = .ok slots) :
    Scene.Steady settings vocabulary requests ⟨⟨slots, report, engine⟩, waiting, next, tried⟩ := by
  have inner := hosts.generate_ok generated
  obtain rfl := ResultBuffer.toHost_success host
  have attended := generate_attended hosts.serving state board steady.attended
  rw [Board.onEngine_ok generated] at attended
  have width : slots.length = board.slots.length := by
    simpa using congrArg List.length (absorbAll_requests absorbed)
  refine ⟨⟨attended.sound, fun slot row live spared => ?_⟩, EngineSettings.generate_grid steady.grid inner,
    width.trans steady.width, steady.queued, fun slot grown present => ?_⟩
  · obtain ⟨occupant, taken⟩ := attended.taken slot row live spared
    exact absorbAll_taken absorbed taken
  · obtain ⟨before, sitting, taken⟩ := absorbAll_slot absorbed present
    rw [Nat.zero_add] at taken
    obtain ⟨member, decodes⟩ := steady.seated slot before sitting
    obtain ⟨same, -, decodes⟩ := decodes.stepped hosts.bounded steady.attended.sound steady.grid hosts.positive
      (busy slot before sitting) inner taken
    exact ⟨same ▸ member, decodes⟩

end

theorem generate_ends {scene : Scene (Front SlotBlocks) DecodeState}
    (serves : scheduler.Serves settings build vocabulary cells)
    (steady : scene.Steady settings vocabulary requests)
    {Holds : SlotBlocks → Prop} {Ready : BlockTable → Prop} {Lacking : Fault → Prop}
    (grow : ∀ cache slot row table, Holds cache → cache.table? slot row = some table → Ready table →
      Ends Holds Lacking (SlotBlocks.reserve slot row 1 cache))
    (holds : Holds scene.board.engine.inner)
    (ready : ∀ slot row table (occupant : Occupant), scene.board.slots[slot]? = some (some occupant) →
      scene.board.engine.inner.table? slot row = some table →
      table.numTokens = occupant.request.prompt.length + occupant.emitted → Ready table) :
    Ends Holds Lacking (settings.generate scheduler.model scene.state none scene.board.engine.inner) := by
  refine EngineSettings.generate_ends grow serves.square serves.hosts.slots serves.hosts.positive steady.grid holds ?_
  intro slot row entry found active live
  obtain ⟨occupant, taken⟩ := steady.attended.taken slot row live (by simp)
  obtain ⟨-, decodes⟩ := steady.seated slot occupant taken
  obtain ⟨entry', table, found', -, known, counted, exact⟩ := decodes.rows row (steady.grid.inside found).2
  obtain rfl := Option.some.inj (found.symm.trans found')
  exact ⟨known, table, counted, ready slot row table occupant taken counted exact⟩

end Scene.Steady

end SlotServe
