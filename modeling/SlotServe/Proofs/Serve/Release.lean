import SlotServe.Proofs.Engine.Levels
import SlotServe.Proofs.Serve.Intake
import SlotServe.Proofs.Serve.Streams

/-! A run gives all blocks back, however it ends. Throughout the run a slot owns blocks only while a
request is in it, also when a step dies between two rows, so that freeing the occupied slots at the end
frees every slot. -/
namespace SlotServe

variable {σ ε α : Type}

theorem keeps_get {Holds : σ → Prop} {next : σ → EStateM ε σ α}
    (rest : ∀ state, Holds state → Holds (left (next state state))) : Keeps Holds (get >>= next) :=
  rest

theorem Board.onEngine_attempt {act : EStateM ε σ α} {board : Board σ} {outcome : Except ε α} {engine : σ}
    (ended : act board.engine = endOf outcome engine) :
    Board.onEngine (attempt act) board = .ok outcome { board with engine } := by
  unfold onEngine zoom attempt
  rw [ended]
  cases outcome <;> rfl

namespace Board

variable {settings : EngineSettings}

structure Attended (settings : EngineSettings) (spare : Option Nat) (board : Board (Front SlotBlocks)) : Prop where
  sound : settings.Sound board.engine.inner
  taken : ∀ slot row, board.engine.inner.isLive slot row = true → spare ≠ some slot →
    ∃ occupant, board.slots[slot]? = some (some occupant)

theorem note_attended (spare : Option Nat) (change : Report → Report) :
    Keeps (Attended settings spare) (note change) :=
  fun _ attended => ⟨attended.sound, attended.taken⟩

variable {board : Board (Front SlotBlocks)} {slot : Nat}

theorem Attended.vacate (attended : board.Attended settings none) (slot : Nat) :
    Attended settings (some slot) { board with slots := board.slots.set slot none } := by
  refine ⟨attended.sound, fun other row live different => ?_⟩
  obtain ⟨occupant, taken⟩ := attended.taken other row live (by simp)
  refine ⟨occupant, ?_⟩
  rw [List.getElem?_set_ne (fun same => different (congrArg some same))]
  exact taken

theorem Attended.occupy (attended : board.Attended settings (some slot)) (inside : slot < board.slots.length)
    (occupant : Occupant) :
    Attended settings none { board with slots := board.slots.set slot (some occupant) } := by
  refine ⟨attended.sound, fun other row live _ => ?_⟩
  by_cases here : slot = other
  · subst other
    exact ⟨occupant, List.getElem?_set_self inside⟩
  · obtain ⟨other, taken⟩ := attended.taken other row live (by simpa using here)
    exact ⟨other, (List.getElem?_set_ne here).trans taken⟩

section

variable {start : Prefilled} {state next : DecodeState} {requestId : Option RequestId} {cache : SlotBlocks}
  {fault : Fault}

theorem Attended.inserted (attended : board.Attended settings none)
    (ok : settings.tryInsertRows start state slot requestId board.engine.inner = .ok next cache) :
    Attended settings (some slot) { board with engine := { board.engine with inner := cache } } := by
  have sound := (EngineSettings.sound_kept slot).tryInsertRows settings start state requestId _ attended.sound
  have sameBut := (EngineSettings.sameBut_keptAt slot board.engine.inner).tryInsertRows settings start state requestId
    _ rfl
  rw [ok] at sound sameBut
  refine ⟨sound, fun other row live different => ?_⟩
  have live : cache.isLive other row = true := live
  have different : other ≠ slot := fun same => different (congrArg some same.symm)
  exact attended.taken other row ((sameBut.isLive different row).symm.trans live) (by simp)

theorem Attended.refused (attended : board.Attended settings none)
    (refused : settings.tryInsertRows start state slot requestId board.engine.inner =
      .error ⟨fault, some next⟩ cache) :
    Attended settings none { board with engine := { board.engine with inner := cache } } := by
  have sound := (EngineSettings.sound_kept slot).tryInsertRows settings start state requestId _ attended.sound
  rw [refused] at sound
  exact ⟨sound, fun other row live => attended.taken other row (EngineSettings.live_of_refused refused live)⟩

end

end Board

def Board.counted (board : Board σ) : Board σ :=
  { board with report := { board.report with prefills := board.report.prefills + 1 } }

namespace Scheduler

theorem absorbAll_taken {buffer : ResultBuffer} {slots grown : List (Option Occupant)} {base place : Nat}
    {occupant : Occupant} (ok : absorbAll buffer base slots = .ok grown)
    (taken : slots[place]? = some (some occupant)) : ∃ after, grown[place]? = some (some after) := by
  induction slots generalizing base place grown with
  | nil => cases taken
  | cons first rest ih =>
    cases first with
    | none =>
      obtain ⟨others, absorbed, done⟩ := except_links ok
      cases done
      cases place with
      | zero => cases taken
      | succ place =>
        have taken : rest[place]? = some (some occupant) := taken
        obtain ⟨after, found⟩ := ih absorbed taken
        exact ⟨after, found⟩
    | some first =>
      obtain ⟨next, _, following⟩ := except_links ok
      obtain ⟨others, absorbed, done⟩ := except_links following
      cases done
      cases place with
      | zero => exact ⟨next, rfl⟩
      | succ place =>
        have taken : rest[place]? = some (some occupant) := taken
        obtain ⟨after, found⟩ := ih absorbed taken
        exact ⟨after, found⟩

variable {V : Type} {settings : EngineSettings} {build : VocabularySource → Except Fault V}
  {scheduler : Scheduler (Front SlotBlocks) TransitionTable Prefilled DecodeState V}
  {board : Board (Front SlotBlocks)} {slot : Nat}

theorem seat_eq {request : Request} {first : ResultBuffer} {occupant : Occupant}
    (taken : scheduler.takeUp request first = .ok occupant) :
    scheduler.seat request slot first board = scheduler.retireAll { board with
      slots := board.slots.set slot (some occupant)
      report := { board.report with tokensGenerated := board.report.tokensGenerated + occupant.numTokens } } := by
  have absorbed : (do (Occupant.ofRequest request scheduler.executor.limits.samplesPerSlot).absorb (← first.toHost) 0) =
      Except.ok occupant := taken
  unfold seat
  rw [absorbed]
  rfl

theorem fill_full {request : Request} {waiting : List Request} {state : DecodeState} {tried : Nat}
    (full : board.firstFree = none) :
    scheduler.fill (request :: waiting) state tried board = .ok (request :: waiting, state, tried) board := by
  rw [fill, get_bind, full]
  rfl

section

variable (serving : scheduler.executor = (settings.executor build).front)

include serving

theorem left_free (slot : Nat) (engine : Front SlotBlocks) :
    left (scheduler.executor.free slot engine) = { engine with inner := left (settings.free slot engine.inner) } := by
  rw [serving]
  exact left_zoom Front.inner (fun inner front => { front with inner }) (settings.free slot) engine

theorem free_attended (attended : board.Attended settings (some slot)) :
    (left (Board.onEngine (scheduler.executor.free slot) board)).Attended settings none := by
  obtain ⟨idle, others⟩ := EngineSettings.free_vacates attended.sound slot
  have sound := (EngineSettings.sound_kept slot).free settings board.engine.inner attended.sound
  rw [Board.onEngine, left_zoom, left_free serving]
  refine ⟨sound, fun other row live _ => ?_⟩
  have live : (left (settings.free slot board.engine.inner)).isLive other row = true := live
  by_cases here : other = slot
  · rw [here, idle] at live
    cases live
  · rw [others other row here] at live
    exact attended.taken other row live (by simpa using Ne.symm here)

theorem retire_attended (done : List (Nat × Occupant)) :
    Keeps (Board.Attended settings none) (scheduler.retire done) := by
  induction done with
  | nil => exact keeps_pure ()
  | cons entry rest ih =>
    obtain ⟨slot, occupant⟩ := entry
    intro board attended
    have vacated : Board.setSlot slot none board = .ok () { board with slots := board.slots.set slot none } := rfl
    unfold retire
    rw [bind_ok _ vacated]
    exact left_bind (free_attended serving (attended.vacate slot)) fun _ =>
      keeps_bind (Board.note_attended none _) fun _ => ih

theorem retireAll_attended : Keeps (Board.Attended settings none) scheduler.retireAll :=
  keeps_get fun board attended => retire_attended serving board.finished board attended

theorem seat_attended {request : Request} {first : ResultBuffer} {occupant : Occupant}
    (taken : scheduler.takeUp request first = .ok occupant) (attended : board.Attended settings (some slot))
    (inside : slot < board.slots.length) :
    (left (scheduler.seat request slot first board)).Attended settings none := by
  have seated := attended.occupy inside occupant
  rw [seat_eq taken]
  exact retireAll_attended serving _ ⟨seated.sound, seated.taken⟩

theorem prefill_attempt {request : Request} {seed : UInt64} {outcome : Except Fault (Prefilled × ResultBuffer)}
    {engine : Front SlotBlocks} (prefilled : scheduler.prefill request seed board.engine = endOf outcome engine) :
    Board.onEngine (attempt (scheduler.prefill request seed)) board = .ok outcome board := by
  have unmoved := prefill_unmoved (prefillsBy serving) request seed board.engine
  rw [prefilled] at unmoved
  have same : engine = board.engine := by cases outcome <;> exact unmoved
  rw [Board.onEngine_attempt prefilled, same]

theorem tryInsert_front {start : Prefilled} {state : DecodeState} {requestId : Option RequestId}
    {outcome : Except (Rejected DecodeState) DecodeState} {cache : SlotBlocks} {engine : Front SlotBlocks}
    (ended : settings.tryInsertRows start state slot requestId engine.inner = endOf outcome cache) :
    scheduler.executor.tryInsert start state slot requestId engine = endOf outcome { engine with inner := cache } := by
  rw [serving]
  unfold Executor.front Front.onInner zoom
  dsimp only [EngineSettings.executor]
  rw [ended]
  cases outcome <;> rfl

section

variable {request : Request} {waiting : List Request} {state : DecodeState} {tried slot : Nat}
  (free : board.firstFree = some slot)

include free

theorem fill_spoiled {fault : Fault} {engine : Front SlotBlocks}
    (failed : scheduler.prefillAfter tried request board.engine = .error fault engine) :
    scheduler.fill (request :: waiting) state tried board =
      (Board.fail request >>= fun _ => scheduler.fill waiting state (tried + 1)) board := by
  have trying : Board.onEngine (attempt (scheduler.prefill request (scheduler.seed + UInt64.ofNat tried))) board =
      .ok (.error fault) board := prefill_attempt serving failed
  rw [fill, get_bind, free]
  exact bind_ok _ trying

theorem fill_tried {start : Prefilled} {first : ResultBuffer} {after engine : Front SlotBlocks}
    (prefilled : scheduler.prefillAfter tried request board.engine = .ok (start, first) after)
    {outcome : Except (Rejected DecodeState) DecodeState}
    (ended : scheduler.executor.tryInsert start state slot (some request.id) board.engine = endOf outcome engine) :
    scheduler.fill (request :: waiting) state tried board =
      (match outcome with
        | .ok next => scheduler.seat request slot first >>= fun _ => scheduler.fill waiting next (tried + 1)
        | .error ⟨fault, none⟩ => throw fault
        | .error ⟨fault, some returned⟩ =>
          if fault.isOutOfBlocks && board.anyOccupied then
            Board.note (fun report => { report with deferred := report.deferred + 1 }) >>= fun _ =>
              pure (request :: waiting, returned, tried + 1)
          else Board.fail request >>= fun _ => scheduler.fill waiting returned (tried + 1))
        { board.counted with engine } := by
  have trying : Board.onEngine (attempt (scheduler.prefill request (scheduler.seed + UInt64.ofNat tried))) board =
      .ok (.ok (start, first)) board := prefill_attempt serving prefilled
  have note : Board.note (fun report => { report with prefills := report.prefills + 1 }) board = .ok () board.counted :=
    rfl
  have entered : Board.onEngine (attempt (scheduler.executor.tryInsert start state slot (some request.id)))
      board.counted = .ok outcome { board.counted with engine } := Board.onEngine_attempt ended
  rw [fill, get_bind, free]
  dsimp only
  rw [bind_ok _ trying]
  dsimp only
  rw [bind_ok _ note, bind_ok _ entered]
  rcases outcome with ⟨fault, _ | returned⟩ | next
  · rfl
  · rfl
  · rfl

end

theorem fill_attended (word : settings.blockSize < Size.limit) (waiting : List Request) (state : DecodeState)
    (tried : Nat) : Keeps (Board.Attended settings none) (scheduler.fill waiting state tried) := by
  induction waiting generalizing state tried with
  | nil => exact keeps_pure _
  | cons request waiting ih =>
    intro board attended
    cases free : board.firstFree with
    | none => rwa [fill_full free]
    | some slot =>
      cases prefilled : scheduler.prefillAfter tried request board.engine with
      | error fault engine =>
        rw [fill_spoiled serving free prefilled]
        exact keeps_bind (Board.note_attended none _) (fun _ => ih _ _) board attended
      | ok found engine =>
        obtain ⟨start, first⟩ := found
        obtain ⟨fit, -, occupant, taken⟩ := prefill_intake (prefillsBy serving) prefilled
        have counted : board.counted.Attended settings none := ⟨attended.sound, attended.taken⟩
        cases inserted : settings.tryInsertRows start state slot (some request.id) board.engine.inner with
        | ok next cache =>
          have entered : scheduler.executor.tryInsert start state slot (some request.id) board.engine =
              endOf (.ok next) { board.engine with inner := cache } := tryInsert_front serving inserted
          have inside := (List.getElem?_eq_some_iff.mp (Board.free_of_firstFree free)).1
          rw [fill_tried serving free prefilled entered]
          -- Until the request is seated its slot owns blocks without being taken.
          exact left_bind (seat_attended serving taken (counted.inserted inserted) inside) fun _ => ih _ _
        | error rejected cache =>
          obtain ⟨fault, _⟩ := rejected
          obtain rfl := EngineSettings.tryInsert_returned attended.sound word fit inserted
          have refused : scheduler.executor.tryInsert start state slot (some request.id) board.engine =
              endOf (.error ⟨fault, some state⟩) { board.engine with inner := cache } :=
            tryInsert_front serving inserted
          rw [fill_tried serving free prefilled refused]
          dsimp only
          split
          · exact keeps_bind (Board.note_attended none _) (fun _ => keeps_pure _) _ (counted.refused inserted)
          · exact keeps_bind (Board.note_attended none _) (fun _ => ih _ _) _ (counted.refused inserted)

theorem generate_attended (state : DecodeState) :
    Keeps (Board.Attended settings none)
      (Board.onEngine (scheduler.executor.generate scheduler.model state none)) := by
  intro board attended
  have sound := EngineSettings.sound_kept.generate settings scheduler.model state none _ attended.sound
  have same : board.engine.inner.SameLive (left (settings.generate scheduler.model state none board.engine.inner)) :=
    EngineSettings.generate_sameLive scheduler.model state none board.engine.inner
  have generated : left (scheduler.executor.generate scheduler.model state none board.engine) =
      { board.engine with inner := left (settings.generate scheduler.model state none board.engine.inner) } := by
    rw [serving]
    exact left_zoom Front.inner (fun inner front => { front with inner }) _ board.engine
  rw [Board.onEngine, left_zoom, generated]
  exact ⟨sound, fun slot row live => attended.taken slot row ((same slot row).symm.trans live)⟩

theorem step_attended (state : DecodeState) : Keeps (Board.Attended settings none) (scheduler.step state) := by
  refine keeps_bind (generate_attended serving state) fun stepped => ?_
  refine keeps_bind (keeps_answer _) fun buffer => ?_
  refine keeps_bind (Board.note_attended none _) fun _ => ?_
  refine keeps_get fun board attended => ?_
  -- When the tokens cannot be read the slots stay taken by the requests as they were.
  cases absorbed : absorbAll buffer 0 board.slots with
  | error fault => exact attended
  | ok slots =>
    have grown : Board.Attended settings none { board with slots } := by
      refine ⟨attended.sound, fun slot row live spared => ?_⟩
      obtain ⟨occupant, taken⟩ := attended.taken slot row live spared
      exact absorbAll_taken absorbed taken
    have retired (change : Report → Report) : Keeps (Board.Attended settings none)
        (Board.note change >>= fun _ => scheduler.retireAll >>= fun _ => pure stepped.1) :=
      keeps_bind (Board.note_attended none change) fun _ =>
        keeps_bind (retireAll_attended serving) fun _ => keeps_pure _
    exact retired (fun report => { report with
      tokensGenerated := report.tokensGenerated + (seatedTokens slots - seatedTokens board.slots) })
      { board with slots } grown

theorem serveFrom_attended (word : settings.blockSize < Size.limit) (stop : Nat → Bool) (steps : Nat)
    (waiting : List Request) (state : DecodeState) (tried : Nat) :
    Keeps (Board.Attended settings none) (scheduler.serveFrom stop steps waiting state tried) := by
  induction steps generalizing waiting state tried with
  | zero =>
    refine keeps_get fun board attended => ?_
    split
    · exact Board.note_attended none _ board attended
    · refine keeps_bind (fill_attended serving word _ _ _) (fun filled => ?_) board attended
      refine keeps_get fun board attended => ?_
      split <;> exact attended
  | succ steps ih =>
    refine keeps_get fun board attended => ?_
    split
    · exact Board.note_attended none _ board attended
    · refine keeps_bind (fill_attended serving word _ _ _) (fun filled => ?_) board attended
      refine keeps_get fun board attended => ?_
      split
      · exact keeps_bind (step_attended serving _) (fun next => ih _ _ _) board attended
      · exact attended

theorem serve_attended (word : settings.blockSize < Size.limit) (requests : List Request) (stop : Nat → Bool) :
    Keeps (Board.Attended settings none) (scheduler.serve requests stop) := by
  refine keeps_bind (fun board attended => ?_) fun state => serveFrom_attended serving word stop _ requests state 0
  rw [Board.onEngine, left_zoom, serving]
  exact attended

theorem releaseSlots_idle (slots : List Nat) (board : Board (Front SlotBlocks))
    (sound : settings.Sound board.engine.inner)
    (listed : ∀ slot row, board.engine.inner.isLive slot row = true → slot ∈ slots) :
    settings.Sound (scheduler.releaseSlots slots board).2.engine.inner ∧
      ∀ slot row, (scheduler.releaseSlots slots board).2.engine.inner.isLive slot row = false := by
  induction slots generalizing board with
  | nil =>
    refine ⟨sound, fun slot row => ?_⟩
    by_contra live
    rw [Bool.not_eq_false] at live
    cases listed slot row live
  | cons slot rest ih =>
    obtain ⟨idle, others⟩ := EngineSettings.free_vacates sound slot
    have later := (EngineSettings.sound_kept slot).free settings board.engine.inner sound
    have remaining (other row : Nat) (live : (left (settings.free slot board.engine.inner)).isLive other row = true) :
        other ∈ rest := by
      by_cases here : other = slot
      · rw [here, idle] at live
        cases live
      · rw [others other row here] at live
        exact List.mem_of_ne_of_mem here (listed other row live)
    have freed := left_free serving slot board.engine
    unfold releaseSlots
    dsimp only
    cases ended : scheduler.executor.free slot board.engine with
    | ok _ engine =>
      rw [ended] at freed
      obtain rfl : engine = _ := freed
      exact ih _ later remaining
    | error fault engine =>
      rw [ended] at freed
      obtain rfl : engine = _ := freed
      exact ih _ later remaining

end

end Scheduler

theorem EngineSettings.Sound.released {settings : EngineSettings} {cache : SlotBlocks} (sound : settings.Sound cache)
    (idle : ∀ slot row, cache.isLive slot row = false) :
    cache.slots = settings.freshCache.slots ∧ cache.pool.numFree = settings.numBlocks := by
  have empty {slot row : Nat} {table : BlockTable} (found : cache.table? slot row = some table) :
      table.blocks = [] := by
    have none := idle slot row
    simpa [SlotBlocks.isLive, found, BlockTable.isEmpty] using none
  have located {slot row : Nat} {tables : List BlockTable} {table : BlockTable}
      (present : cache.slots[slot]? = some tables) (found : tables[row]? = some table) :
      cache.table? slot row = some table := SlotBlocks.table?_eq_some.mpr ⟨tables, present, found⟩
  constructor
  · refine List.eq_replicate_iff.mpr ⟨sound.shaped.height, fun tables member => ?_⟩
    refine List.eq_replicate_iff.mpr ⟨sound.shaped.uniform tables member, fun table within => ?_⟩
    obtain ⟨slot, present⟩ := List.mem_iff_getElem?.mp member
    obtain ⟨row, found⟩ := List.mem_iff_getElem?.mp within
    have there := located present found
    have snug := sound.accounted.snug slot row table there
    have blocks := empty there
    have tokens := snug.tokens_eq_zero blocks
    have sized := snug.sized
    cases table
    simp_all [BlockTable.ofBlockSize]
  · have held : cache.heldBlocks = [] := by
      refine List.flatMap_eq_nil_iff.mpr fun tables member => List.flatMap_eq_nil_iff.mpr fun table within => ?_
      obtain ⟨slot, present⟩ := List.mem_iff_getElem?.mp member
      obtain ⟨row, found⟩ := List.mem_iff_getElem?.mp within
      exact empty (located present found)
    have total := sound.accounted.pool.numFree_add
    rwa [held] at total

/-- When a run over an idle executor ends, with a report or a fault, no row owns blocks or counts
tokens, and all blocks are free. A block size is a machine word. -/
theorem run_returns_blocks {V : Type} {settings : EngineSettings} {build : VocabularySource → Except Fault V}
    (word : settings.blockSize < Size.limit)
    {scheduler : Scheduler (Front SlotBlocks) TransitionTable Prefilled DecodeState V}
    (serving : scheduler.executor = (settings.executor build).front) {first : Front SlotBlocks}
    (reached : (settings.executor build).Reaches settings.freshCache first.inner)
    (idle : ∀ slot row, first.inner.isLive slot row = false) (requests : List Request) (stop : Nat → Bool) :
    let cache := (left (scheduler.run requests stop first)).inner
    cache.slots = settings.freshCache.slots ∧ cache.pool.numFree = settings.numBlocks := by
  have started : (scheduler.start first).Attended settings none := by
    refine ⟨EngineSettings.sound_of_reaches reached, fun slot row live => ?_⟩
    have live : first.inner.isLive slot row = true := live
    rw [idle] at live
    cases live
  have served := Scheduler.serve_attended serving word requests stop _ started
  have concluded {board : Board (Front SlotBlocks)} (attended : board.Attended settings none) (failure : Option Fault) :
      (left (scheduler.conclude failure board)).inner.slots = settings.freshCache.slots ∧
        (left (scheduler.conclude failure board)).inner.pool.numFree = settings.numBlocks := by
    obtain ⟨sound, idle⟩ := Scheduler.releaseSlots_idle serving (board.occupied.map (·.1)) board attended.sound
      fun slot row live => by
        obtain ⟨occupant, taken⟩ := attended.taken slot row live (by simp)
        exact List.mem_map.mpr ⟨(slot, occupant), Board.mem_occupied.mpr taken, rfl⟩
    unfold Scheduler.conclude
    dsimp only
    split <;> exact sound.released idle
  intro cache
  have ended := scheduler.run_eq requests stop first
  cases serving : scheduler.serve requests stop (scheduler.start first) with
  | ok _ board =>
    rw [serving] at ended served
    have same : cache = (left (scheduler.conclude none board)).inner := congrArg (fun ended => (left ended).inner) ended
    rw [same]
    exact concluded served none
  | error fault board =>
    rw [serving] at ended served
    have same : cache = (left (scheduler.conclude (some fault) board)).inner :=
      congrArg (fun ended => (left ended).inner) ended
    rw [same]
    exact concluded served (some fault)

def EngineSettings.starved : EngineSettings :=
  { maxConcurrentDecodes := 2, maxPrefillLength := 4, vocabSize := 1, blockSize := 4, numBlocks := 3 }

def starvedScheduler : Scheduler (Front SlotBlocks) TransitionTable Prefilled DecodeState Unit :=
  { executor := (EngineSettings.starved.executor fun _ => .ok ()).front
    model := ⟨⟨[1, 1], .ofReals [0]⟩⟩
    buckets := []
    padId := 0 }

def starvedRequests : List Request := [⟨⟨1⟩, [0, 0, 0], 3⟩, ⟨⟨2⟩, [0, 0, 0], 3⟩]

/-- The first step grows the row of the first request, and has no block left for the second one. -/
theorem starved_run_returns_blocks :
    ∃ fault engine, starvedScheduler.run starvedRequests (fun _ => false) (.cold EngineSettings.starved.freshCache) =
        .error fault engine ∧
      fault.isOutOfBlocks = true ∧
      engine.inner.slots = EngineSettings.starved.freshCache.slots ∧ engine.inner.pool.numFree = 3 := by
  have idle (slot row : Nat) : (Front.cold EngineSettings.starved.freshCache).inner.isLive slot row = false :=
    SlotBlocks.isLive_fresh ..
  have serving : starvedScheduler.executor = (EngineSettings.starved.executor fun _ => .ok ()).front := rfl
  have released := run_returns_blocks (by decide) serving .start idle starvedRequests fun _ => false
  have failing : (match starvedScheduler.run starvedRequests (fun _ => false)
      (.cold EngineSettings.starved.freshCache) with
      | .ok .. => false
      | .error fault _ => fault.isOutOfBlocks) = true := by decide +kernel
  cases ended : starvedScheduler.run starvedRequests (fun _ => false) (.cold EngineSettings.starved.freshCache) with
  | ok => simp [ended] at failing
  | error fault engine =>
    rw [ended] at released failing
    exact ⟨fault, engine, rfl, failing, released⟩

end SlotServe
