import SlotServe.Proofs.Engine.Observed
import SlotServe.Proofs.Engine.Regular

/-! Sessions on an executor that has served nothing yet: calls of every kind in any order, with any tensors,
samplers and slots, failing calls included. No call of a session ends in a defect, and no index or sum of it
is out of range. -/
namespace SlotServe

/-- The tensor is in memory with all its cells, and the length is a machine word. -/
structure PrefillRequest.Held {P : Type} (request : PrefillRequest P) : Prop where
  fits : request.padded.Fits
  addressable : Size.addressable request.padded.numCells request.padded.type.bytes = true
  word : request.trueLength < Size.limit

inductive PromptCall
  | prefill (table : TransitionTable) (request : PrefillRequest Prefilled)
  | prefillMany (table : TransitionTable) (request : PrefillRequest Prefilled) (seed : Option UInt64) (count : Nat)
  | prefillChunked (table : TransitionTable) (request : PrefillRequest Prefilled)

namespace PromptCall

def request : PromptCall → PrefillRequest Prefilled
  | .prefill _ request | .prefillMany _ request _ _ | .prefillChunked _ request => request

def perform {V : Type} (executor : Executor SlotBlocks TransitionTable Prefilled DecodeState V) :
    PromptCall → EStateM Fault SlotBlocks (Prefilled × ResultBuffer)
  | .prefill table request => executor.prefill table request
  | .prefillMany table request seed count => executor.prefillMany table request seed count
  | .prefillChunked table request => executor.prefillChunked table request

/-- What a caller can ask for: tokens that are there, and no more samples than can be allocated. -/
structure Callable (call : PromptCall) : Prop where
  held : call.request.Held
  allocates : ∀ table request seed count, call = .prefillMany table request seed count → table.Allocates count

/-- Every position that a prefill in chunks counts up to is a machine word. It counts on from a position only
if the tokens reach up to there. -/
def CountsChunks (settings : EngineSettings) (call : PromptCall) : Prop :=
  settings.prefillChunkSize < call.request.newTokens → ∀ index,
    (index = 0 ∨ call.request.carriedLength + index * settings.prefillChunkSize ≤ call.request.padded.numCells) →
      call.request.carriedLength + (index + 1) * settings.prefillChunkSize < Size.limit

variable {settings : EngineSettings} {V : Type} {build : VocabularySource → Except Fault V} {cache : SlotBlocks}

theorem Callable.countsChunks {call : PromptCall} (callable : call.Callable) (settings : EngineSettings) :
    call.CountsChunks settings := by
  obtain ⟨-, addressable, word⟩ := callable.held
  have limit : Size.limit = 0x10000000000000000 := rfl
  have memory : call.request.padded.numCells * call.request.padded.type.bytes < 0x8000000000000000 := by
    simpa [Size.addressable] using addressable
  have byte : 0 < call.request.padded.type.bytes := by cases call.request.padded.type <;> decide
  have cells := Nat.le_mul_of_pos_right call.request.padded.numCells byte
  intro chunked index reached
  unfold PrefillRequest.newTokens at chunked
  rw [Nat.succ_mul]
  cases index with
  | zero => omega
  | succ index =>
    rw [Nat.succ_mul] at reached ⊢
    omega

theorem perform_ends {call : PromptCall} (callable : call.Callable) (sound : settings.Sound cache) :
    Ends settings.Sound Fault.Proper (call.perform (settings.executor build) cache) := by
  have fits := callable.held.fits
  cases call with
  | prefill table request => exact ends_answer (EngineSettings.prefill_proper fits) sound
  | prefillMany table request seed count =>
    exact ends_answer (EngineSettings.prefillMany_proper fits seed (callable.allocates _ _ _ _ rfl)) sound
  | prefillChunked table request =>
    exact Executor.prefillChunked_proper (fun fits _ sound => ends_answer (EngineSettings.prefill_proper fits) sound)
      fits sound

theorem keeps_perform (call : PromptCall) {Holds : SlotBlocks → Prop} :
    Keeps Holds (call.perform (settings.executor build)) := by
  cases call with
  | prefill | prefillMany => exact keeps_answer _
  | prefillChunked table request =>
    have same : (settings.executor build).MirroredPrefill (fun state twin => state = twin ∧ Holds state)
        (settings.executor build) := ⟨rfl, fun _ _ => mirrors_answer _, fun _ _ _ _ => mirrors_answer _⟩
    exact keeps_iff_mirrors.mpr (same.prefillChunked table request)

end PromptCall

theorem DecodeState.mem_rows {state : DecodeState} {entry : DecodeRow} :
    entry ∈ state.rows ↔ ∃ slot row, state.row? slot row = some entry := by
  rw [rows, List.mem_flatten]
  constructor
  · rintro ⟨rows, inside, member⟩
    obtain ⟨slot, present⟩ := List.mem_iff_getElem?.mp inside
    obtain ⟨row, located⟩ := List.mem_iff_getElem?.mp member
    exact ⟨slot, row, Option.bind_eq_some_iff.mpr ⟨rows, present, located⟩⟩
  · rintro ⟨slot, row, found⟩
    obtain ⟨rows, present, located⟩ := Option.bind_eq_some_iff.mp found
    exact ⟨rows, List.mem_of_getElem? present, List.mem_of_getElem? located⟩

namespace EngineCall

/-- What a caller can do: insert prompts that prefills answered, as long as all rows stay below half the range
of a size. -/
def Callable (settings : EngineSettings) (cache : SlotBlocks) (state : DecodeState) (call : EngineCall) : Prop :=
  (∀ start ∈ call.starts, settings.Returns start ∧ start.context.length + 1 < Size.half) ∧
    ∀ table sampler, call = .generate table sampler →
      (∀ tables ∈ cache.slots, ∀ counts ∈ tables, counts.numTokens + 1 < Size.half) ∧
        ∀ row ∈ state.rows, row.tokens.length + 1 < Size.half

variable {settings : EngineSettings} {V : Type} {build : VocabularySource → Except Fault V} {call : EngineCall}
  {state : DecodeState} {cache : SlotBlocks}

theorem keeps_perform {executor : Executor SlotBlocks TransitionTable Prefilled DecodeState V}
    {Holds : SlotBlocks → Prop} (maintains : executor.Maintains Holds) (call : EngineCall) (state : DecodeState) :
    Keeps Holds (call.perform executor state) := by
  cases call with
  | insert start slot requestId => exact keeps_consuming (maintains.insert start state slot requestId)
  | tryInsert start slot requestId => exact maintains.tryInsert start state slot requestId
  | insertAll start slots => exact keeps_consuming (maintains.insertAll start state slots)
  | generate table sampler => exact keeps_consuming (keeps_map (maintains.generate table state sampler) _)
  | free slot => exact keeps_beside (maintains.free slot) state

theorem Callable.storable (callable : call.Callable settings cache state) {start : Prefilled}
    (member : start ∈ call.starts) : start.Storable :=
  ⟨(callable.1 start member).1.scored.2, (callable.1 start member).2⟩

theorem perform_ends (word : settings.blockSize < Size.limit) (sound : settings.Sound cache)
    (callable : call.Callable settings cache state) :
    Ends settings.Sound (fun rejected => rejected.fault.Proper) (call.perform (settings.executor build) state cache) := by
  cases call with
  | insert start slot requestId =>
    have storable := callable.storable (List.mem_singleton.mpr rfl)
    exact ends_consuming (ends_bind (ends_answer (checkSlot_proper _ _) sound) fun _ _ _ sound =>
      EngineSettings.insertRows_ends word storable sound state slot requestId)
  | tryInsert start slot requestId =>
    have storable := callable.storable (List.mem_singleton.mpr rfl)
    exact EngineSettings.tryInsertRows_ends word storable sound state slot requestId
  | insertAll start slots =>
    have storable := callable.storable (List.mem_singleton.mpr rfl)
    exact ends_consuming (ends_bind (ends_answer (checkSlots_proper _ _) sound) fun _ _ _ sound =>
      EngineSettings.insertEach_ends word storable sound state slots)
  | generate table sampler =>
    have short (slot row : Nat) (entry : DecodeRow) (counts : BlockTable) (_ : state.row? slot row = some entry)
        (_ : entry.active = true) (found : cache.table? slot row = some counts) : counts.numTokens + 1 < Size.half := by
      obtain ⟨tables, present, located⟩ := SlotBlocks.table?_eq_some.mp found
      exact (callable.2 table sampler rfl).1 tables (List.mem_of_getElem? present) counts (List.mem_of_getElem? located)
    exact ends_consuming (ends_map (EngineSettings.generate_ends_proper word sound short table sampler) _)
  | free slot => exact ends_beside (EngineSettings.free_ends sound slot) state

def handed : EStateM.Result (Rejected DecodeState) SlotBlocks DecodeState → List DecodeState
  | .ok next _ => [next]
  | .error rejected _ => rejected.returned.toList

theorem handed_regular (sound : settings.Sound cache) (regular : state.Regular settings)
    (callable : call.Callable settings cache state) :
    ∀ next ∈ handed (call.perform (settings.executor build) state cache), next.Regular settings := by
  intro next member
  cases ended : call.perform (settings.executor build) state cache with
  | ok answered after =>
    rw [ended] at member
    obtain rfl := List.mem_singleton.mp member
    have done := perform_success ended
    cases call with
    | insert start slot requestId | tryInsert start slot requestId =>
      exact EngineSettings.insertRows_regular sound regular (callable.1 start (List.mem_singleton.mpr rfl)).2 done
    | insertAll start slots =>
      exact EngineSettings.insertEach_regular sound regular (callable.1 start (List.mem_singleton.mpr rfl)).2 done
    | generate table sampler =>
      obtain ⟨buffer, generated⟩ := done
      refine EngineSettings.generate_regular regular (fun slot row entry found => ?_) generated
      exact (callable.2 table sampler rfl).2 entry (DecodeState.mem_rows.mpr ⟨slot, row, found⟩)
    | free slot =>
      obtain ⟨rfl, -⟩ := done
      exact regular
  | error rejected after =>
    rw [ended] at member
    have returned : rejected.returned = some next := Option.mem_toList.mp member
    have same : next = state := by
      cases call with
      | insert | insertAll | generate => cases (consuming_returned ended).symm.trans returned
      | tryInsert start slot requestId =>
        obtain ⟨fault, _⟩ := rejected
        obtain rfl : _ = some next := returned
        exact (EngineSettings.tryInsert_refused ended).1
      | free slot => exact Option.some.inj (returned.symm.trans (beside_returned ended).1)
    rwa [same]

end EngineCall

namespace EngineSettings

variable (settings : EngineSettings) {V : Type} (build : VocabularySource → Except Fault V)

/-- The cache and the decode states at hand after calls on an executor that has served nothing yet. A decode state can
be copied, so that those passed before can be passed again, and a fresh one is always at hand. -/
inductive Session : SlotBlocks → List DecodeState → Prop
  | start : Session settings.freshCache [settings.freshState]
  | prompt {cache : SlotBlocks} {states : List DecodeState} (before : Session cache states) (call : PromptCall)
      (callable : call.Callable) : Session (left (call.perform (settings.executor build) cache)) states
  | slots {cache : SlotBlocks} {states : List DecodeState} (before : Session cache states) (state : DecodeState)
      (held : state ∈ states) (call : EngineCall) (callable : call.Callable settings cache state) :
      Session (left (call.perform (settings.executor build) state cache))
        (EngineCall.handed (call.perform (settings.executor build) state cache) ++ states)

/-- What calls take from the cache and the decode states at hand is in range: the ids of blocks index the flags of
the pool, each slot has its tables, its rows are a slice of all rows, all rows divide into the slots, and one more
token can be counted. -/
structure InRange (cache : SlotBlocks) (states : List DecodeState) : Prop where
  blocks : ∀ block ∈ cache.pool.free ++ cache.heldBlocks, block < cache.pool.inUse.size
  tables : ∀ slot < settings.maxConcurrentDecodes, ∃ tables, cache.slots[slot]? = some tables ∧
    tables.length = settings.samplesPerSlot
  slices : ∀ state ∈ states, ∀ slot < settings.maxConcurrentDecodes, ∃ rows, state.slots[slot]? = some rows ∧
    (state.rows.drop (slot * settings.samplesPerSlot)).take settings.samplesPerSlot = rows ∧
      slot * settings.samplesPerSlot + settings.samplesPerSlot ≤ state.rows.length
  rows : ∀ state ∈ states, state.rows.length < Size.limit
  numSlots : 0 < settings.samplesPerSlot ∧
    ∀ state ∈ states, state.rows.length / settings.samplesPerSlot = settings.maxConcurrentDecodes
  counts : ∀ state ∈ states, ∀ row ∈ state.rows, row.generated + 1 < Size.limit

variable {settings} {build} {cache : SlotBlocks} {states : List DecodeState}

theorem Session.holds (session : settings.Session build cache states) :
    settings.Sound cache ∧ ∀ state ∈ states, state.Regular settings := by
  induction session with
  | start => exact ⟨freshCache_sound, by simpa using freshState_regular settings⟩
  | prompt before call callable ih => exact ⟨call.keeps_perform _ ih.1, ih.2⟩
  | slots before state held call callable ih =>
    obtain ⟨sound, regular⟩ := ih
    refine ⟨EngineCall.keeps_perform (sound_kept.maintains settings build) call state _ sound, fun next member => ?_⟩
    -- A call that fails hands back the state that it was given, or none.
    rcases List.mem_append.mp member with answered | old
    · exact EngineCall.handed_regular sound (regular state held) callable next answered
    · exact regular next old

theorem inRange (valid : settings.validate = .ok ())
    (sized : settings.maxConcurrentDecodes * settings.samplesPerSlot < Size.limit)
    (sound : settings.Sound cache) (regular : ∀ state ∈ states, state.Regular settings) :
    settings.InRange cache states := by
  have length (state : DecodeState) (held : state ∈ states) :
      state.rows.length = settings.maxConcurrentDecodes * settings.samplesPerSlot := by
    rw [DecodeState.rows, (regular state held).grid.uniform.length_flatten, (regular state held).grid.height]
  have positive : 0 < settings.samplesPerSlot :=
    size_of_valid valid (show ("samples_per_slot", _) ∈ settings.sizes by simp [sizes])
  refine ⟨fun block member => ?_, fun slot inside => sound.shaped.present inside, fun state held slot inside => ?_,
    fun state held => ?_, ⟨positive, fun state held => ?_⟩, fun state held row member => ?_⟩
  · rcases List.mem_append.mp member with free | out
    · exact sound.accounted.pool.lt_of_mem_free free
    · exact sound.accounted.pool.lt_of_mem_out out
  · obtain ⟨rows, present, -⟩ := (regular state held).grid.present inside
    refine ⟨rows, present, (regular state held).grid.flatten_row present, ?_⟩
    rw [length state held, ← Nat.succ_mul]
    exact Nat.mul_le_mul_right _ inside
  · rwa [length state held]
  · rw [length state held, Nat.mul_div_cancel _ positive]
  · obtain ⟨slot, place, found⟩ := DecodeState.mem_rows.mp member
    obtain ⟨counted, short⟩ := (regular state held).short slot place row found
    have limit : Size.limit = 0x10000000000000000 := rfl
    have half : Size.half = 0x8000000000000000 := rfl
    omega

/-- In a session every call succeeds or fails for a proper cause, and never meets a defect: a table, a prompt and a
sampler may be any, a slot need not exist, and the calls before may have failed. Block sizes and the number of rows are
machine words. -/
theorem session_never_defective (valid : settings.validate = .ok ()) (word : settings.blockSize < Size.limit)
    (sized : settings.maxConcurrentDecodes * settings.samplesPerSlot < Size.limit)
    (session : settings.Session build cache states) :
    (∀ call : PromptCall, call.Callable → call.CountsChunks settings ∧
      Ends settings.Sound Fault.Proper (call.perform (settings.executor build) cache)) ∧
    (∀ state ∈ states, ∀ call : EngineCall, call.Callable settings cache state →
      Ends settings.Sound (fun rejected => rejected.fault.Proper)
        (call.perform (settings.executor build) state cache)) ∧
    settings.InRange cache states := by
  obtain ⟨sound, regular⟩ := session.holds
  exact ⟨fun call callable => ⟨callable.countsChunks settings, call.perform_ends callable sound⟩,
    fun state _ call callable => EngineCall.perform_ends word sound callable, inRange valid sized sound regular⟩

def crammed : EngineSettings :=
  { maxConcurrentDecodes := 1, samplesPerSlot := 2, useChunkedPrefill := true, prefillChunkSize := 1, vocabSize := 2,
    blockSize := 2, numBlocks := 3 }

def crammedCache : SlotBlocks := ⟨⟨#[true, true, false], [2]⟩, [[⟨[0], 2, 2⟩, ⟨[1], 2, 2⟩]]⟩

def crammedState (token : UInt32) (logProb : Float32) : DecodeState :=
  ⟨[List.replicate 2 ⟨true, [token, 1], 1, none, logProb⟩]⟩

theorem crammed_insert (token : UInt32) (logProb : Float32) :
    (EngineCall.insert ⟨[1], [token], [logProb], none⟩ 0 none).perform
      (crammed.executor fun _ => (.ok () : Except Fault Unit)) crammed.freshState crammed.freshCache =
        .ok (crammedState token logProb) crammedCache := by
  with_unfolding_all rfl

def spareRow : PrefillRequest Prefilled := { padded := ⟨[2, 3], .i64 [1, 0, 1, 0, 0, 0]⟩, trueLength := 3 }

/-- A step of rows that have no room left, and a prompt in chunks from a tensor that is no vector. -/
theorem crammed_session_never_defective :
    ∃ (token : UInt32) (logProb : Float32),
      crammed.Session (fun _ => .ok ()) crammedCache [crammedState token logProb, crammed.freshState] ∧
      (EngineCall.generate swapping none).Callable crammed crammedCache (crammedState token logProb) ∧
      Ends crammed.Sound (fun rejected => rejected.fault.Proper) ((EngineCall.generate swapping none).perform
        (crammed.executor fun _ => .ok ()) (crammedState token logProb) crammedCache) ∧
      (PromptCall.prefillChunked swapping spareRow).Callable ∧
      Ends crammed.Sound Fault.Proper
        ((PromptCall.prefillChunked swapping spareRow).perform (crammed.executor fun _ => .ok ()) crammedCache) ∧
      crammed.InRange crammedCache [crammedState token logProb, crammed.freshState] := by
  have prefilled : (crammed.prefill swapping { padded := .ofTokens [1], trueLength := 1 }).isOk = true := by
    decide +kernel
  cases answered : crammed.prefill swapping { padded := .ofTokens [1], trueLength := 1 } with
  | error =>
    rw [answered] at prefilled
    cases prefilled
  | ok found =>
    obtain ⟨start, buffer⟩ := found
    obtain ⟨context, last, contextual, -, handed⟩ := prefill_handOn answered
    obtain ⟨_, token, logProb, -, rfl, -⟩ := TransitionTable.handOn_success handed
    obtain rfl : [1] = context := Except.ok.inj contextual
    have short : [(1 : UInt32)].length + 1 < Size.half := by decide
    have inserts : (EngineCall.insert ⟨[1], [token], [logProb], none⟩ 0 none).Callable crammed crammed.freshCache
        crammed.freshState := by
      refine ⟨fun start started => ?_, fun _ _ same => by cases same⟩
      rw [List.mem_singleton.mp started]
      exact ⟨.prefill answered, short⟩
    have session : crammed.Session (fun _ => (.ok () : Except Fault Unit)) _ _ :=
      .slots .start crammed.freshState (List.mem_singleton.mpr rfl) _ inserts
    rw [crammed_insert] at session
    have steps : (EngineCall.generate swapping none).Callable crammed crammedCache (crammedState token logProb) := by
      have tables : ∀ tables ∈ crammedCache.slots, ∀ counts ∈ tables, counts.numTokens + 1 < Size.half := by decide
      refine ⟨fun _ none => absurd none List.not_mem_nil, fun _ _ _ => ⟨tables, fun row member => ?_⟩⟩
      obtain rfl : row = ⟨true, [token, 1], 1, none, logProb⟩ := by simpa [crammedState, DecodeState.rows] using member
      exact (by decide : 3 < Size.half)
    have chunks : (PromptCall.prefillChunked swapping spareRow).Callable :=
      ⟨⟨rfl, by decide, by decide⟩, fun _ _ _ _ same => by cases same⟩
    obtain ⟨prompts, slots, inRange⟩ := session_never_defective rfl (by decide) (by decide) session
    exact ⟨token, logProb, session, steps, slots _ (by simp [EngineCall.handed]) _ steps, chunks, (prompts _ chunks).2,
      inRange⟩

end EngineSettings

end SlotServe
