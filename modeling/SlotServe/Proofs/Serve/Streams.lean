import Mathlib.Data.List.Perm.Subperm
import SlotServe.Proofs.Engine.Rejected
import SlotServe.Proofs.Serve.Conservation
import SlotServe.Proofs.Serve.Seats

/-! Every completion holds the streams of its own request. The requests in the slots decode next to
each other through every move of a run, and one that leaves its slot has all its tokens. -/
namespace SlotServe

variable {V : Type} {settings : EngineSettings} {build : VocabularySource → Except Fault V}

structure Scheduler.Streaming (scheduler : Scheduler (Front SlotBlocks) TransitionTable Prefilled DecodeState V)
    (settings : EngineSettings) (requests : List Request)
    (scene : Scene (Observed (Front SlotBlocks) Prefilled) DecodeState) : Prop where
  grid : Grid settings.maxConcurrentDecodes settings.samplesPerSlot scene.state.slots
  seated : ∀ slot occupant, scene.board.slots[slot]? = some (some occupant) → ∃ start,
    scheduler.Seated scene.board.engine.attempts scene.state scene.board.engine.inner.inner slot occupant start
  fulfilled : ∃ served : List Request,
    List.Forall₂ (scheduler.Fulfils scene.board.engine.attempts) scene.board.report.completions served ∧
    (served ++ seatedRequests scene.board.slots ++ scene.waiting).Subperm requests

theorem Front.onInner_success {σ ε α : Type} {act : EStateM ε σ α} {front after : Front σ} {value : α}
    (ok : Front.onInner act front = .ok value after) : act front.inner = .ok value after.inner := by
  obtain ⟨inner, done, rfl⟩ := zoom_success ok
  exact done

namespace Scheduler

variable {scheduler : Scheduler (Front SlotBlocks) TransitionTable Prefilled DecodeState V}
  {attempts : List (Attempt Prefilled)} {state next : DecodeState} {slot : Nat} {occupant : Occupant}
  {start : Prefilled} {request : Request}

section

variable (serving : scheduler.executor = (settings.executor build).front)
  {engine left : Observed (Front SlotBlocks) Prefilled}

include serving

theorem tryInsert_inner (start : Prefilled) (state : DecodeState) (slot : Nat) (requestId : Option RequestId)
    (engine : Observed (Front SlotBlocks) Prefilled) :
    match scheduler.observed.executor.tryInsert start state slot requestId engine with
    | .ok next after =>
      settings.tryInsertRows start state slot requestId engine.inner.inner = .ok next after.inner.inner
    | .error rejected after =>
      settings.tryInsertRows start state slot requestId engine.inner.inner = .error rejected after.inner.inner := by
  change match scheduler.executor.observed.tryInsert start state slot requestId engine with
    | .ok next after => _
    | .error rejected after => _
  rw [serving]
  unfold Executor.observed Observed.attempting Observed.onInner Executor.front Front.onInner zoom
  dsimp only [EngineSettings.executor]
  cases settings.tryInsertRows start state slot requestId engine.inner.inner <;> rfl

theorem generate_inner {sampler : Option Sampler} {shown : DecodeState × ResultBuffer}
    (ok : scheduler.observed.executor.generate scheduler.model state sampler engine = .ok shown left) :
    settings.generate scheduler.model state sampler engine.inner.inner = .ok shown left.inner.inner := by
  have passed := Observed.onInner_success ok
  rw [serving] at passed
  exact Front.onInner_success passed

theorem free_inner (ok : scheduler.observed.executor.free slot engine = .ok () left) :
    settings.free slot engine.inner.inner = .ok () left.inner.inner := by
  have passed := Observed.onInner_success ok
  rw [serving] at passed
  exact Front.onInner_success passed

end

/-- Requests may leave the queue, and attempts and blocks outside the occupied slots do not matter. -/
theorem Streaming.quiet {requests waiting rest : List Request} {board : Board (Observed (Front SlotBlocks) Prefilled)}
    {report : Report} {engine : Observed (Front SlotBlocks) Prefilled} {tried tries : Nat}
    (streaming : scheduler.Streaming settings requests ⟨board, waiting, state, tried⟩)
    (grown : board.engine.attempts ⊆ engine.attempts)
    (tables : ∀ slot occupant, board.slots[slot]? = some (some occupant) →
      ∀ row, engine.inner.inner.table? slot row = board.engine.inner.inner.table? slot row)
    (completions : report.completions = board.report.completions) (fewer : rest.Sublist waiting) :
    scheduler.Streaming settings requests ⟨⟨board.slots, report, engine⟩, rest, state, tries⟩ := by
  obtain ⟨grid, seated, served, fulfilled, counted⟩ := streaming
  refine ⟨grid, fun slot occupant taken => ?_, served, ?_, ?_⟩
  · obtain ⟨start, seat⟩ := seated slot occupant taken
    exact ⟨start, seat.mono grown (fun _ => rfl) (tables slot occupant taken)⟩
  · rw [completions]
    exact fulfilled.imp fun _ _ fulfils => fulfils.mono grown
  · exact (fewer.append_left _).subperm.trans counted

section

variable (serving : scheduler.executor = (settings.executor build).front)
  {engine between : Observed (Front SlotBlocks) Prefilled} {board : Board (Observed (Front SlotBlocks) Prefilled)}
  {requests waiting : List Request} {tried : Nat} {first : ResultBuffer}

include serving

theorem prefillsBy : scheduler.executor.PrefillsBy settings := by
  rw [serving]
  exact Executor.prefillsBy_front settings build

theorem prefillAfter_unmoved (tried : Nat) (request : Request) (engine : Observed (Front SlotBlocks) Prefilled) :
    SlotServe.left (scheduler.observed.prefillAfter tried request engine) = engine :=
  prefill_unmoved (prefillsBy serving).observed request _ engine

theorem admitted_of_prefill (positive : 0 < settings.samplesPerSlot) {vocabulary : Nat} {cells : List UInt32}
    (square : scheduler.model.Square vocabulary cells)
    (ok : scheduler.observed.prefillAfter tried request engine = .ok (start, first) between)
    (attempt : ⟨start, slot, some request.id, true⟩ ∈ attempts) :
    scheduler.Admitted attempts request slot start ∧ first.Shows start.firstTokens settings.samplesPerSlot := by
  have plain := prefillsBy serving
  have prefills : scheduler.observed.executor.PrefillsBy settings := plain.observed
  have prefilled : scheduler.observed.prefill request (scheduler.seed + UInt64.ofNat tried) engine =
    .ok (start, first) between := ok
  obtain ⟨shows, greedy⟩ := prefill_success prefills positive square prefilled
  refine ⟨⟨attempt, ⟨tried, first, prefill_anywhere prefills plain prefilled⟩, ?_⟩, shows⟩
  rw [plain.limits]
  exact greedy

theorem tryInsert_frame (start : Prefilled) (state : DecodeState) (requestId : Option RequestId)
    (engine : Observed (Front SlotBlocks) Prefilled) {other : Nat} (different : other ≠ slot) (row : Nat) :
    (SlotServe.left (scheduler.observed.executor.tryInsert start state slot requestId engine)).inner.inner.table?
      other row = engine.inner.inner.table? other row := by
  have inner := tryInsert_inner serving start state slot requestId engine
  have kept := EngineSettings.sameBut_keptAt slot engine.inner.inner
  have framed := kept.tryInsertRows settings start state requestId engine.inner.inner rfl
  cases ended : scheduler.observed.executor.tryInsert start state slot requestId engine with
  | ok next after =>
    rw [ended] at inner
    dsimp only at inner
    rw [inner] at framed
    exact framed.table? different row
  | error rejected after =>
    rw [ended] at inner
    dsimp only at inner
    rw [inner] at framed
    exact framed.table? different row

theorem Streaming.refuse {fault : Fault} {returned : DecodeState} {rest : List Request} {report : Report}
    {tries : Nat} (streaming : scheduler.Streaming settings requests ⟨board, waiting, state, tried⟩)
    (free : board.firstFree = some slot)
    (prefilled : scheduler.observed.prefillAfter tried request board.engine = .ok (start, first) between)
    (refused : scheduler.observed.executor.tryInsert start state slot (some request.id) between =
      .error ⟨fault, some returned⟩ engine)
    (completions : report.completions = board.report.completions) (fewer : rest.Sublist waiting) :
    scheduler.Streaming settings requests ⟨⟨board.slots, report, engine⟩, rest, returned, tries⟩ := by
  have watched : scheduler.observed.executor = scheduler.executor.observed := rfl
  have noted := tried_attempts watched prefilled state slot
  have unmoved := prefillAfter_unmoved serving tried request board.engine
  rw [prefilled] at unmoved
  obtain rfl : between = board.engine := unmoved
  have inner := tryInsert_inner serving start state slot (some request.id) board.engine
  rw [refused] at inner noted
  obtain ⟨rfl, -⟩ := EngineSettings.tryInsert_refused inner
  have grown : board.engine.attempts ⊆ engine.attempts := by
    rw [noted]
    exact List.subset_append_left _ _
  refine streaming.quiet grown (fun other occupant taken row => ?_) completions fewer
  -- The insert was tried at a free slot, so it touched no blocks of a request.
  have different : other ≠ slot := by
    rintro rfl
    rw [Board.free_of_firstFree free] at taken
    cases taken
  have framed := tryInsert_frame serving start returned (some request.id) board.engine different row
  rwa [refused] at framed

theorem Streaming.admit (positive : 0 < settings.samplesPerSlot) {vocabulary : Nat} {cells : List UInt32}
    (square : scheduler.model.Square vocabulary cells)
    (streaming : scheduler.Streaming settings requests ⟨board, request :: waiting, state, tried⟩)
    (free : board.firstFree = some slot)
    (prefilled : scheduler.observed.prefillAfter tried request board.engine = .ok (start, first) between)
    (inserted : scheduler.observed.executor.tryInsert start state slot (some request.id) between = .ok next engine)
    (taken : scheduler.observed.takeUp request first = .ok occupant) {report : Report} {tries : Nat}
    (completions : report.completions = board.report.completions) :
    scheduler.Streaming settings requests
      ⟨⟨board.slots.set slot (some occupant), report, engine⟩, waiting, next, tries⟩ := by
  have watched : scheduler.observed.executor = scheduler.executor.observed := rfl
  have noted := tried_attempts watched prefilled state slot
  have unmoved := prefillAfter_unmoved serving tried request board.engine
  rw [prefilled] at unmoved
  obtain rfl : between = board.engine := unmoved
  have inner := tryInsert_inner serving start state slot (some request.id) board.engine
  have framed (other : Nat) (different : other ≠ slot) (row : Nat) :=
    tryInsert_frame serving start state (some request.id) board.engine different row
  simp only [inserted] at inner noted framed
  obtain ⟨grid, seated, served, fulfilled, counted⟩ := streaming
  have grown : board.engine.attempts ⊆ engine.attempts := by
    rw [noted]
    exact List.subset_append_left _ _
  have attempt : ⟨start, slot, some request.id, true⟩ ∈ engine.attempts := by
    rw [noted]
    exact List.mem_append_right _ (List.mem_singleton_self _)
  obtain ⟨admitted, shows⟩ := admitted_of_prefill serving positive square prefilled attempt
  obtain ⟨same, seat⟩ := seated_of_insert admitted (prefillsBy serving).limits grid shows inner taken
  obtain ⟨within, -, ⟨rows, seeded, rfl⟩, -⟩ := EngineSettings.tryInsert_success inner
  refine ⟨grid.set slot (EngineSettings.seedRows_success seeded).1, fun other later present => ?_, served, ?_, ?_⟩
  · by_cases here : other = slot
    · subst here
      rw [List.getElem?_set_self (List.getElem?_eq_some_iff.mp (Board.free_of_firstFree free)).1] at present
      cases present
      exact ⟨start, seat⟩
    · rw [List.getElem?_set_ne (Ne.symm here)] at present
      obtain ⟨earlier, sitting⟩ := seated other later present
      refine ⟨earlier, sitting.mono grown (fun row => ?_) (framed other here)⟩
      rw [DecodeState.row?_setSlot _ _ _ (by rwa [grid.height]), if_neg here]
  · rw [completions]
    exact fulfilled.imp fun _ _ fulfils => fulfils.mono grown
  · have joined := seatedRequests_set (Board.free_of_firstFree free) occupant
    rw [same] at joined
    have moved : (served ++ request :: seatedRequests board.slots ++ waiting).Perm
        (served ++ seatedRequests board.slots ++ request :: waiting) := by
      simp only [List.append_assoc, List.cons_append]
      exact (List.perm_middle.symm).append_left served
    exact (((joined.append_left served).append_right waiting).trans moved).subperm.trans counted

theorem Streaming.leave (streaming : scheduler.Streaming settings requests ⟨board, waiting, state, tried⟩)
    (taken : board.slots[slot]? = some (some occupant)) (done : occupant.isDone = true)
    (freed : scheduler.observed.executor.free slot board.engine = .ok () engine) {report : Report}
    (completions : report.completions = board.report.completions ++ [occupant.completion slot]) :
    scheduler.Streaming settings requests ⟨⟨board.slots.set slot none, report, engine⟩, waiting, state, tried⟩ := by
  have watched : scheduler.observed.executor = scheduler.executor.observed := rfl
  have unseen := free_attempts watched slot board.engine
  have emptied := free_inner serving freed
  have kept := EngineSettings.sameBut_keptAt slot board.engine.inner.inner
  have framed := kept.free settings board.engine.inner.inner rfl
  rw [freed] at unseen
  rw [emptied] at framed
  have same : engine.attempts = board.engine.attempts := unseen
  obtain ⟨grid, seated, served, fulfilled, counted⟩ := streaming
  refine ⟨grid, fun other later present => ?_, served ++ [occupant.request], ?_, ?_⟩
  · by_cases here : other = slot
    · subst here
      rw [List.getElem?_set_self (List.getElem?_eq_some_iff.mp taken).1] at present
      cases present
    · rw [List.getElem?_set_ne (Ne.symm here)] at present
      obtain ⟨start, seat⟩ := seated other later present
      exact ⟨start, seat.mono (same ▸ List.Subset.refl _) (fun _ => rfl) (framed.table? here)⟩
  · obtain ⟨start, seat⟩ := seated slot occupant taken
    rw [completions, same]
    exact List.rel_append fulfilled (.cons (seat.fulfils done) .nil)
  · have vacated := (seatedRequests_perm taken).symm
    have moved : (served ++ [occupant.request] ++ seatedRequests (board.slots.set slot none) ++ waiting).Perm
        (served ++ seatedRequests board.slots ++ waiting) := by
      simp only [List.append_assoc, List.singleton_append]
      exact (vacated.append_right waiting).append_left served
    exact moved.subperm.trans counted

theorem Streaming.step {vocabulary : Nat} {cells : List UInt32} (square : scheduler.model.Square vocabulary cells)
    (streaming : scheduler.Streaming settings requests ⟨board, waiting, state, tried⟩)
    {buffer copied : ResultBuffer} {slots : List (Option Occupant)}
    (generated : scheduler.observed.executor.generate scheduler.model state none board.engine =
      .ok (next, buffer) engine)
    (host : buffer.toHost = .ok copied) (absorbed : absorbAll copied 0 board.slots = .ok slots) {report : Report}
    (completions : report.completions = board.report.completions) :
    scheduler.Streaming settings requests ⟨⟨slots, report, engine⟩, waiting, next, tried⟩ := by
  have watched : scheduler.observed.executor = scheduler.executor.observed := rfl
  have unseen := generate_attempts watched scheduler.model state none board.engine
  rw [generated] at unseen
  have same : engine.attempts = board.engine.attempts := unseen
  have inner := generate_inner serving generated
  obtain rfl := ResultBuffer.toHost_success host
  obtain ⟨grid, seated, served, fulfilled, counted⟩ := streaming
  refine ⟨EngineSettings.generate_grid grid inner, fun slot occupant present => ?_, served, ?_, ?_⟩
  · obtain ⟨before, sitting, taken⟩ := absorbAll_slot absorbed present
    rw [Nat.zero_add] at taken
    obtain ⟨start, seat⟩ := seated slot before sitting
    rw [same]
    exact ⟨start, seat.step square grid inner taken⟩
  · rw [same, completions]
    exact fulfilled
  · have unchanged : seatedRequests slots = seatedRequests board.slots := by
      rw [seatedRequests, seatedRequests, absorbAll_requests absorbed]
    rw [unchanged]
    exact counted

end

theorem streaming_start (serving : scheduler.executor = (settings.executor build).front) (requests : List Request)
    {engine started : Observed (Front SlotBlocks) Prefilled}
    (initial : scheduler.observed.executor.initState engine = .ok state started) :
    scheduler.Streaming settings requests ⟨scheduler.observed.start started, requests, state, 0⟩ := by
  have passed := Observed.onInner_success initial
  rw [serving] at passed
  have fresh : (pure (.fresh settings.maxConcurrentDecodes settings.samplesPerSlot) :
      EStateM Fault SlotBlocks DecodeState) engine.inner.inner = .ok state started.inner.inner :=
    Front.onInner_success passed
  obtain rfl := (EStateM.Result.ok.inj fresh).1
  refine ⟨?_, fun slot occupant taken => ?_, [], .nil, ?_⟩
  · have grid := Grid.replicate settings.maxConcurrentDecodes
      (List.replicate settings.samplesPerSlot ({} : DecodeRow))
    rwa [List.length_replicate] at grid
  · have empty := List.eq_of_mem_replicate (List.mem_of_getElem? taken)
    cases empty
  · have none : seatedRequests (scheduler.observed.start started).slots = [] := by
      simp [Scheduler.start, seatedRequests]
    rw [none]
    exact .refl _

theorem streaming_move (serving : scheduler.executor = (settings.executor build).front)
    (positive : 0 < settings.samplesPerSlot) {vocabulary : Nat} {cells : List UInt32}
    (square : scheduler.model.Square vocabulary cells) {requests : List Request}
    {scene later : Scene (Observed (Front SlotBlocks) Prefilled) DecodeState}
    (streaming : scheduler.Streaming settings requests scene) (move : scheduler.observed.Move scene later) :
    scheduler.Streaming settings requests later := by
  cases move with
  | @spoil board waiting state tried slot request fault engine free spoilt =>
    have unmoved := prefillAfter_unmoved serving tried request board.engine
    rw [spoilt] at unmoved
    obtain rfl : engine = board.engine := unmoved
    exact streaming.quiet (List.Subset.refl _) (fun _ _ _ _ => rfl) rfl (List.sublist_cons_self _ _)
  | takeIn free prefilled inserted taken =>
    exact streaming.admit serving positive square free prefilled inserted taken rfl
  | putOff free prefilled refused crowded =>
    exact streaming.refuse serving free prefilled refused rfl (List.Sublist.refl _)
  | turnAway free prefilled refused hopeless =>
    exact streaming.refuse serving free prefilled refused rfl (List.sublist_cons_self _ _)
  | retire taken done freed => exact streaming.leave serving taken done freed rfl
  | step generated host absorbed => exact streaming.step serving square generated host absorbed rfl
  | interrupt => exact streaming.quiet (List.Subset.refl _) (fun _ _ _ _ => rfl) rfl (List.Sublist.refl _)

theorem streaming_moves (serving : scheduler.executor = (settings.executor build).front)
    (positive : 0 < settings.samplesPerSlot) {vocabulary : Nat} {cells : List UInt32}
    (square : scheduler.model.Square vocabulary cells) {requests : List Request}
    {scene later : Scene (Observed (Front SlotBlocks) Prefilled) DecodeState}
    (streaming : scheduler.Streaming settings requests scene) (moves : scheduler.observed.Moves scene later) :
    scheduler.Streaming settings requests later := by
  induction moves with
  | refl => exact streaming
  | tail _ move ih => exact streaming_move serving positive square ih move

end Scheduler

/-- Every completion is of a request of its own, and holds one stream for each sample, of as many tokens
as were asked for. A stream starts with the first token that the prefill of the request answered for the
sample, and goes on with the best successor of each token, whatever slot the request was in and whatever
became of other requests meanwhile. With one sample for each slot, the first token is itself the best
successor of the last token of the prompt. -/
theorem completions_follow_table {settings : EngineSettings} (valid : settings.validate = .ok ())
    {scheduler : Scheduler (Front SlotBlocks) TransitionTable Prefilled DecodeState V}
    (serving : scheduler.executor = (settings.executor build).front) {vocabulary : Nat} {cells : List UInt32}
    (square : scheduler.model.Square vocabulary cells) {requests : List Request} {stop : Nat → Bool}
    {first engine : Front SlotBlocks} {report : Report}
    (ok : scheduler.run requests stop first = .ok report engine) :
    ∃ attempts, scheduler.observed.run requests stop ⟨[], first⟩ = .ok report ⟨attempts, engine⟩ ∧
      ∃ served : List Request, served.Subperm requests ∧
        List.Forall₂ (scheduler.Fulfils attempts) report.completions served := by
  obtain ⟨attempts, watched⟩ := Scheduler.run_observed ok
  refine ⟨attempts, watched, ?_⟩
  obtain ⟨state, started, board, waiting, next, tries, initial, moves, -, rfl, released⟩ :=
    Scheduler.run_moves watched
  have checked : ("samples_per_slot", settings.samplesPerSlot) ∈ settings.sizes := by simp [EngineSettings.sizes]
  have positive := EngineSettings.size_of_valid valid checked
  obtain ⟨-, -, served, fulfilled, counted⟩ :=
    Scheduler.streaming_moves serving positive square (Scheduler.streaming_start serving requests initial) moves
  have watching : scheduler.observed.executor = scheduler.executor.observed := rfl
  have kept := Scheduler.releaseSlots_attempts watching (board.occupied.map (·.1)) board
  rw [released] at kept
  have same : board.engine.attempts = attempts := kept.symm
  rw [same] at fulfilled
  refine ⟨served, ?_, fulfilled⟩
  exact ((List.sublist_append_left served _).trans (List.sublist_append_left _ waiting)).subperm.trans counted

def EngineSettings.paired : EngineSettings :=
  { maxConcurrentDecodes := 2, maxPrefillLength := 4, vocabSize := 2, blockSize := 4, numBlocks := 2 }

def alternatingScheduler : Scheduler (Front SlotBlocks) TransitionTable Prefilled DecodeState Unit :=
  { executor := (EngineSettings.paired.executor fun _ => .ok ()).front
    model := ⟨⟨[2, 2], .ofReals [0, 1, 1, 0]⟩⟩
    buckets := []
    padId := 0 }

def alternatingRequests : List Request :=
  [⟨⟨1⟩, [0], 3⟩, ⟨⟨2⟩, [1], 2⟩, ⟨⟨3⟩, [0, 1, 0, 0], 2⟩]

theorem alternating_completions_follow_table :
    EngineSettings.paired.validate = .ok () ∧
    alternatingScheduler.model.Square 2 ([0, 1, 1, 0].map Float32.toBits) ∧ ∃ report engine,
      alternatingScheduler.run alternatingRequests (fun _ => false) (.cold EngineSettings.paired.freshCache) =
        .ok report engine ∧
      report.deferred = 1 ∧ report.completions.map Completion.samples = [[[0, 1]], [[1, 0, 1]], [[1, 0]]] ∧
      ∃ attempts, ∃ served : List Request, served.Subperm alternatingRequests ∧
        List.Forall₂ (alternatingScheduler.Fulfils attempts) report.completions served := by
  have valid : EngineSettings.paired.validate = .ok () := rfl
  have square : alternatingScheduler.model.Square 2 ([0, 1, 1, 0].map Float32.toBits) := ⟨rfl, rfl⟩
  have served : (match alternatingScheduler.run alternatingRequests (fun _ => false)
      (.cold EngineSettings.paired.freshCache) with
      | .ok report _ => decide (report.deferred = 1 ∧
        report.completions.map Completion.samples = [[[0, 1]], [[1, 0, 1]], [[1, 0]]])
      | .error .. => false) = true := by decide +kernel
  refine ⟨valid, square, ?_⟩
  cases ended : alternatingScheduler.run alternatingRequests (fun _ => false)
    (.cold EngineSettings.paired.freshCache) with
  | error => simp [ended] at served
  | ok report engine =>
    obtain ⟨deferred, samples⟩ : report.deferred = 1 ∧
        report.completions.map Completion.samples = [[[0, 1]], [[1, 0, 1]], [[1, 0]]] := by
      simpa [ended] using served
    obtain ⟨attempts, -, served, counted, fulfilled⟩ := completions_follow_table valid rfl square ended
    exact ⟨report, engine, rfl, deferred, samples, attempts, served, counted, fulfilled⟩

end SlotServe
