import SlotServe.Proofs.Serve.Progress
import SlotServe.Proofs.Serve.Rounds

/-! The course of a run over an idle executor, step by step. Filling and retiring do not fail. -/
namespace SlotServe

variable {V : Type} {settings : EngineSettings} {build : VocabularySource → Except Fault V} {vocabulary : Nat}

namespace Scheduler

section

variable {σ M P S : Type} {scheduler : Scheduler σ M P S V}

theorem retire_remaining {done : List (Nat × Occupant)} {board after : Board σ}
    (ok : scheduler.retire done board = .ok () after) {slot : Nat} {occupant : Occupant}
    (taken : after.slots[slot]? = some (some occupant)) :
    board.slots[slot]? = some (some occupant) ∧ slot ∉ done.map (·.1) := by
  induction done generalizing board with
  | nil =>
    cases ok
    exact ⟨taken, List.not_mem_nil⟩
  | cons entry rest ih =>
    obtain ⟨engine, -, ok⟩ := retire_links ok
    obtain ⟨before, remaining⟩ := ih ok
    have different : entry.1 ≠ slot := by
      rintro rfl
      rw [List.getElem?_set] at before
      simp at before
    rw [List.getElem?_set_ne different] at before
    refine ⟨before, fun member => ?_⟩
    rcases List.mem_cons.mp member with same | later
    · exact different same.symm
    · exact remaining later

theorem retireAll_busy {board after : Board σ} (ok : scheduler.retireAll board = .ok () after) : after.Busy := by
  intro slot occupant taken
  obtain ⟨before, remaining⟩ := retire_remaining ok taken
  by_contra done
  rw [Bool.not_eq_false] at done
  have finished : (slot, occupant) ∈ board.finished := List.mem_filter.mpr ⟨Board.mem_occupied.mpr before, done⟩
  exact remaining (List.mem_map.mpr ⟨_, finished, rfl⟩)

end

def opening (scheduler : Scheduler (Front SlotBlocks) TransitionTable Prefilled DecodeState V)
    (settings : EngineSettings) (requests : List Request) (engine : Front SlotBlocks) :
    Scene (Front SlotBlocks) DecodeState :=
  ⟨scheduler.start engine, requests, .fresh settings.maxConcurrentDecodes settings.samplesPerSlot, 0⟩

variable {scheduler : Scheduler (Front SlotBlocks) TransitionTable Prefilled DecodeState V}

theorem opening_busy (requests : List Request) (first : Front SlotBlocks) :
    (scheduler.opening settings requests first).board.Busy := by
  intro slot occupant taken
  cases List.eq_of_mem_replicate (List.mem_of_getElem? taken)

theorem opening_pending (requests : List Request) (first : Front SlotBlocks) :
    (scheduler.opening settings requests first).pending = stepBound requests := by
  have none (count : Nat) : seatedDebt (List.replicate count none) = 0 := by
    induction count with
    | zero => rfl
    | succ count ih => exact (Nat.zero_add _).trans ih
  exact congrArg (stepBound requests + ·) (none _)

variable (hosts : scheduler.Hosts settings build vocabulary)

include hosts

theorem Hosts.free_ok {engine : Front SlotBlocks} (sound : settings.Sound engine.inner) {slot : Nat}
    (inside : slot < settings.maxConcurrentDecodes) :
    ∃ after, scheduler.executor.free slot engine = .ok () after ∧ settings.Sound after.inner := by
  obtain ⟨cache, freed⟩ := EngineSettings.free_ok sound inside
  have later := (EngineSettings.sound_kept slot).free settings engine.inner sound
  rw [freed] at later
  refine ⟨{ engine with inner := cache }, ?_, later⟩
  rw [hosts.serving]
  unfold Executor.front Front.onInner zoom
  dsimp only [EngineSettings.executor]
  rw [freed]

theorem retire_ok {done : List (Nat × Occupant)} {board : Board (Front SlotBlocks)}
    (sound : settings.Sound board.engine.inner) (inside : ∀ entry ∈ done, entry.1 < settings.maxConcurrentDecodes) :
    ∃ after, scheduler.retire done board = .ok () after := by
  induction done generalizing board with
  | nil => exact ⟨board, rfl⟩
  | cons entry rest ih =>
    obtain ⟨slot, occupant⟩ := entry
    have within : slot < settings.maxConcurrentDecodes := inside (slot, occupant) (List.mem_cons_self ..)
    obtain ⟨engine, freed, later⟩ := hosts.free_ok sound within
    let vacated : Board (Front SlotBlocks) := { board with slots := board.slots.set slot none }
    have freeing : Board.onEngine (scheduler.executor.free slot) vacated = .ok () { vacated with engine } :=
      Board.onEngine_ok freed
    have vacating : Board.setSlot slot none board = .ok () vacated := rfl
    let reported : Board (Front SlotBlocks) := { vacated with
      engine, report := { board.report with completions := board.report.completions ++ [occupant.completion slot] } }
    obtain ⟨after, retired⟩ : ∃ after, scheduler.retire rest reported = .ok () after :=
      ih later fun entry member => inside entry (List.mem_cons_of_mem _ member)
    unfold retire
    rw [bind_ok _ vacating, bind_ok _ freeing]
    exact ⟨after, retired⟩

variable {requests waiting : List Request} {state : DecodeState} {tried : Nat} {board : Board (Front SlotBlocks)}

theorem retireAll_ends (sound : settings.Sound board.engine.inner)
    (width : board.slots.length = settings.maxConcurrentDecodes) :
    Ends Board.Busy (fun _ => False) (scheduler.retireAll board) := by
  have inside : ∀ entry ∈ board.finished, entry.1 < settings.maxConcurrentDecodes := by
    rintro ⟨slot, occupant⟩ member
    have taken := Board.mem_occupied.mp (List.mem_filter.mp member).1
    rw [← width]
    exact (List.getElem?_eq_some_iff.mp taken).1
  obtain ⟨after, retired⟩ : ∃ after, scheduler.retireAll board = .ok () after := retire_ok hosts sound inside
  have busy := retireAll_busy retired
  rwa [retired]

omit hosts in
theorem idle_of_free (steady : Scene.Steady settings vocabulary requests ⟨board, waiting, state, tried⟩) {slot : Nat}
    (free : board.firstFree = some slot) (row : Nat) : board.engine.inner.isLive slot row = false := by
  by_contra live
  rw [Bool.not_eq_false] at live
  obtain ⟨occupant, taken⟩ := steady.attended.taken slot row live (by simp)
  cases (Board.free_of_firstFree free).symm.trans taken

theorem seat_ends {request : Request} {slot tries : Nat} {start : Prefilled} {first : ResultBuffer} {next : DecodeState}
    {engine between after : Front SlotBlocks}
    (steady : Scene.Steady settings vocabulary requests ⟨board, request :: waiting, state, tried⟩)
    (free : board.firstFree = some slot)
    (prefilled : scheduler.prefillAfter tries request between = .ok (start, first) after)
    (inserted : scheduler.executor.tryInsert start state slot (some request.id) board.engine = .ok next engine) :
    Ends (fun after => after.Busy ∧ Scene.Steady settings vocabulary requests ⟨after, waiting, next, tried + 1⟩)
      (fun _ => False) (scheduler.seat request slot first { board with engine }) := by
  obtain ⟨-, suits, occupant, taken, same, count, single⟩ := hosts.prefill_ok prefilled
  let seated : Board (Front SlotBlocks) :=
    { slots := board.slots.set slot (some occupant)
      report := { board.report with tokensGenerated := board.report.tokensGenerated + occupant.numTokens }
      engine }
  have admitted : Scene.Steady settings vocabulary requests ⟨seated, waiting, next, tried + 1⟩ :=
    steady.seat hosts free suits same count single inserted
  have ends := retireAll_ends hosts admitted.attended.sound admitted.width
  rw [seat_eq taken]
  cases retired : scheduler.retireAll seated with
  | error fault after =>
    rw [retired] at ends
    exact ends.elim
  | ok _ after =>
    have moves := retireAll_moves retired waiting next (tried + 1)
    exact ⟨retireAll_busy retired, steady_eagers hosts admitted (eager_of_quiet moves)⟩

theorem insert_hinges {tries slot : Nat} {request : Request} {start : Prefilled}
    {first : ResultBuffer} {between after : Front SlotBlocks}
    (steady : Scene.Steady settings vocabulary requests ⟨board, waiting, state, tried⟩)
    (free : board.firstFree = some slot)
    (prefilled : scheduler.prefillAfter tries request between = .ok (start, first) after)
    (requestId : Option RequestId) :
    (settings.footprint (request.prompt.length + 1) ≤ board.engine.inner.pool.numFree ∧
      ∃ next engine, scheduler.executor.tryInsert start state slot requestId board.engine = .ok next engine) ∨
    (board.engine.inner.pool.numFree < settings.footprint (request.prompt.length + 1) ∧
      ∃ fault engine, scheduler.executor.tryInsert start state slot requestId board.engine =
        .error ⟨fault, some state⟩ engine ∧ fault.isOutOfBlocks = true) := by
  obtain ⟨-, suits, -⟩ := hosts.prefill_ok prefilled
  have inside : slot < settings.maxConcurrentDecodes := by
    rw [← steady.width]
    exact (List.getElem?_eq_some_iff.mp (Board.free_of_firstFree free)).1
  have room := EngineSettings.tryInsert_room steady.attended.sound hosts.sized hosts.word inside
    (idle_of_free steady free) suits.fit suits.fits state requestId
  rw [suits.length] at room
  rcases room with ⟨enough, next, cache, inserted⟩ | ⟨short, fault, cache, refused, lacking⟩
  · exact .inl ⟨enough, next, _, tryInsert_front hosts.serving (show _ = endOf (.ok next) cache from inserted)⟩
  · exact .inr ⟨Nat.not_le.mp short, fault, _,
      tryInsert_front hosts.serving (show _ = endOf (.error ⟨fault, some state⟩) cache from refused), lacking⟩

theorem fill_ends (steady : Scene.Steady settings vocabulary requests ⟨board, waiting, state, tried⟩)
    (busy : board.Busy) : Ends Board.Busy (fun _ => False) (scheduler.fill waiting state tried board) := by
  induction waiting generalizing state tried board with
  | nil => exact busy
  | cons request waiting ih =>
    cases free : board.firstFree with
    | none => rwa [fill_full free]
    | some slot =>
      cases prefilled : scheduler.prefillAfter tried request board.engine with
      | error fault engine =>
        rw [fill_spoiled hosts.serving free prefilled]
        exact ih (steady.quiet (List.subset_cons_self _ _)) busy
      | ok found engine =>
        obtain ⟨start, first⟩ := found
        have counted : Scene.Steady settings vocabulary requests ⟨board.counted, request :: waiting, state, tried⟩ :=
          steady.quiet (List.Subset.refl _)
        have busy : board.counted.Busy := busy
        -- A slot without a request owns no blocks, so that only their number decides.
        rcases insert_hinges hosts steady free prefilled (some request.id) with
          ⟨-, next, engine, inserted⟩ | ⟨-, fault, engine, refused, -⟩
        · have entered : scheduler.executor.tryInsert start state slot (some request.id) board.engine =
            endOf (.ok next) engine := inserted
          rw [fill_tried hosts.serving free prefilled entered]
          have ends := seat_ends hosts counted free prefilled inserted
          refine ends_bind (ends.imp And.left id) fun _ after seated busy => ih ?_ busy
          rw [seated] at ends
          exact ends.2
        · have turned : scheduler.executor.tryInsert start state slot (some request.id) board.engine =
            endOf (.error ⟨fault, some state⟩) engine := refused
          have spared (report : Report) (tries : Nat) :
              Scene.Steady settings vocabulary requests ⟨⟨board.slots, report, engine⟩, waiting, state, tries⟩ :=
            steady.refuse hosts free refused (List.subset_cons_self _ _)
          rw [fill_tried hosts.serving free prefilled turned]
          dsimp only
          split
          · exact busy
          · exact ih (spared _ _) busy

theorem step_ends (steady : Scene.Steady settings vocabulary requests ⟨board, waiting, state, tried⟩)
    (busy : board.Busy) :
    Ends Board.Busy
      (fun fault => ∃ engine, scheduler.executor.generate scheduler.model state none board.engine = .error fault engine)
      (scheduler.step state board) := by
  unfold step
  cases generated : scheduler.executor.generate scheduler.model state none board.engine with
  | error fault engine =>
    have failed : Board.onEngine (scheduler.executor.generate scheduler.model state none) board =
        .error fault { board with engine } := Board.onEngine_error generated
    rw [bind_error _ failed]
    exact ⟨engine, rfl⟩
  | ok shown engine =>
    obtain ⟨next, buffer⟩ := shown
    have inner := hosts.generate_ok generated
    have grid := EngineSettings.generate_grid steady.grid inner
    have packed := (EngineSettings.generate_links inner).2
    rw [EngineSettings.ofSamples_rows hosts.slots hosts.positive grid] at packed
    obtain rfl := Except.ok.inj packed
    obtain ⟨slots, absorbed⟩ : ∃ slots, absorbAll (.ofSingles (next.rows.map (·.sample)) settings.samplesPerSlot) 0
        board.slots = .ok slots := by
      refine absorbAll_ok fun occupant slot inside => occupant.absorb_singles hosts.positive ?_
      rw [EngineSettings.length_rows grid, ← steady.width, Nat.zero_add, ← Nat.succ_mul]
      exact Nat.mul_le_mul_right _ inside
    have stepped (report : Report) :
        Scene.Steady settings vocabulary requests ⟨⟨slots, report, engine⟩, waiting, next, tried⟩ :=
      steady.step hosts busy generated (ResultBuffer.toHost_ok _) absorbed
    have retired (report : Report) := retireAll_ends hosts (stepped report).attended.sound (stepped report).width
    rw [bind_ok _ (Board.onEngine_ok generated)]
    dsimp only
    rw [ResultBuffer.toHost_ok]
    change Ends _ _ ((answer (absorbAll _ 0 board.slots) >>= _) (⟨board.slots, _, engine⟩ : Board (Front SlotBlocks)))
    rw [absorbed]
    change Ends _ _ ((scheduler.retireAll >>= fun _ => pure next) (⟨slots, _, engine⟩ : Board (Front SlotBlocks)))
    exact ends_bind ((retired _).imp id False.elim) fun _ _ _ busy => busy

theorem fill_course (steady : Scene.Steady settings vocabulary requests ⟨board, waiting, state, tried⟩)
    (busy : board.Busy) :
    ∃ left next tries after, scheduler.fill waiting state tried board = .ok (left, next, tries) after ∧ after.Busy ∧
      Scene.Steady settings vocabulary requests ⟨after, left, next, tries⟩ ∧
      scheduler.QuietMoves ⟨board, waiting, state, tried⟩ ⟨after, left, next, tries⟩ ∧
      (left = [] ∨ after.anyOccupied = true) := by
  have ends := fill_ends hosts steady busy
  cases filled : scheduler.fill waiting state tried board with
  | error fault after =>
    rw [filled] at ends
    exact ends.elim
  | ok found after =>
    obtain ⟨left, next, tries⟩ := found
    rw [filled] at ends
    obtain ⟨moves, finale, -⟩ := fill_moves filled
    have later := steady_eagers hosts steady (eager_of_quiet moves)
    have slots : after.slots ≠ [] := by
      rw [List.ne_nil_iff_length_pos, later.width]
      exact hosts.slots
    exact ⟨left, next, tries, after, rfl, ends, later, moves,
      finale.imp_right (Or.rec (Board.anyOccupied_of_full slots) id)⟩

theorem step_course (steady : Scene.Steady settings vocabulary requests ⟨board, waiting, state, tried⟩)
    (busy : board.Busy)
    (occupied : board.anyOccupied = true) :
    (∃ fault after engine, scheduler.step state board = .error fault after ∧
      scheduler.executor.generate scheduler.model state none board.engine = .error fault engine) ∨
    ∃ next after, scheduler.step state board = .ok next after ∧ after.Busy ∧
      Scene.Steady settings vocabulary requests ⟨after, waiting, next, tried⟩ ∧
      scheduler.EagerMoves ⟨board, waiting, state, tried⟩ ⟨after, waiting, next, tried⟩ ∧
      Scene.pending ⟨after, waiting, next, tried⟩ < Scene.pending ⟨board, waiting, state, tried⟩ := by
  have ends := step_ends hosts steady busy
  cases stepped : scheduler.step state board with
  | error fault after =>
    rw [stepped] at ends
    obtain ⟨engine, failed⟩ := ends
    exact .inl ⟨fault, after, engine, rfl, failed⟩
  | ok next after =>
    rw [stepped] at ends
    obtain ⟨middle, move, paced, same, retired, -⟩ := step_moves stepped waiting tried
    have eager : scheduler.Eager ⟨board, waiting, state, tried⟩ middle := ⟨move, same, .inr busy⟩
    have between := steady_eager hosts steady eager
    have quiet := eager_of_quiet retired
    exact .inr ⟨next, after, rfl, ends, steady_eagers hosts between quiet, .head eager quiet,
      (pending_quiets hosts between retired).trans_lt (pending_step hosts steady busy occupied move paced)⟩

inductive Ending {σ M P S V : Type} (scheduler : Scheduler σ M P S V) (stop : Nat → Bool) (scene : Scene σ S) :
    EStateM.Result Fault (Board σ) Unit → Prop
  | stopped (flag : stop scene.board.report.generateSteps = true) :
      Ending scheduler stop scene
        (.ok () { scene.board with report := { scene.board.report with interrupted := true } })
  | drained (idle : scene.board.anyOccupied = false) (empty : scene.waiting = []) :
      Ending scheduler stop scene (.ok () scene.board)
  | broken {fault after engine} (busy : scene.board.Busy)
      (failed : scheduler.executor.generate scheduler.model scene.state none scene.board.engine = .error fault engine) :
      Ending scheduler stop scene (.error fault after)

/-- From a steady scene the rounds end, after no more steps than tokens are owed. -/
theorem rounds_course {stop : Nat → Bool} {start : Scene (Front SlotBlocks) DecodeState}
    (steady : start.Steady settings vocabulary requests) (busy : start.board.Busy) :
    ∃ made ≤ start.pending, ∃ last ended scene, scheduler.Rounds stop start made last ended ∧
      scheduler.EagerMoves start scene ∧ scheduler.Ending stop scene ended := by
  induction owed : start.pending using Nat.strongRecOn generalizing start with
  | ind owed ih =>
    obtain ⟨board, waiting, state, tried⟩ := start
    cases flag : stop board.report.generateSteps with
    | true => exact ⟨0, Nat.zero_le _, tried, _, _, .stopped flag, .refl, .stopped flag⟩
    | false =>
      obtain ⟨left, next, tries, filled, filling, busy, later, moves, finale⟩ := fill_course hosts steady busy
      have pending := pending_quiets hosts steady moves
      have moves := eager_of_quiet moves
      cases occupied : filled.anyOccupied with
      | false =>
        have empty : left = [] := finale.resolve_right (by simp [occupied])
        exact ⟨0, Nat.zero_le _, tries, _, _, .drained flag filling occupied, moves, .drained occupied empty⟩
      | true =>
        -- Something is owed, and a step pays some of it off.
        have positive := pending_pos hosts later busy occupied
        rcases step_course hosts later busy occupied with
          ⟨fault, after, engine, broken, failed⟩ | ⟨state, after, stepped, calm, steady, step, paid⟩
        · exact ⟨1, by omega, tries, _, _, .broken flag filling occupied broken, moves, .broken busy failed⟩
        · obtain ⟨made, fewer, last, ended, scene, rounds, rest, ending⟩ := ih _ (by omega) steady calm rfl
          exact ⟨made + 1, by omega, last, ended, scene, .stepped flag filling occupied stepped rounds,
            moves.trans (step.trans rest), ending⟩

theorem releaseSlots_ok {slots : List Nat} {board : Board (Front SlotBlocks)}
    (sound : settings.Sound board.engine.inner)
    (inside : ∀ slot ∈ slots, slot < settings.maxConcurrentDecodes) :
    (scheduler.releaseSlots slots board).1 = none := by
  induction slots generalizing board with
  | nil => rfl
  | cons slot rest ih =>
    obtain ⟨engine, freed, later⟩ := hosts.free_ok sound (inside slot (List.mem_cons_self ..))
    unfold releaseSlots
    dsimp only
    rw [freed]
    exact ih later fun other member => inside other (List.mem_cons_of_mem _ member)

theorem conclude_ok {scene : Scene (Front SlotBlocks) DecodeState} (steady : scene.Steady settings vocabulary requests)
    (report : Report) :
    ∃ engine, scheduler.conclude none { scene.board with report } = .ok report engine := by
  have inside : ∀ slot ∈ scene.board.occupied.map (·.1), slot < settings.maxConcurrentDecodes := by
    intro slot member
    obtain ⟨⟨_, occupant⟩, taken, rfl⟩ := List.mem_map.mp member
    rw [← steady.width]
    exact (List.getElem?_eq_some_iff.mp (Board.mem_occupied.mp taken)).1
  let board : Board (Front SlotBlocks) := { scene.board with report }
  have sound : settings.Sound board.engine.inner := steady.attended.sound
  have released : (scheduler.releaseSlots (board.occupied.map (·.1)) board).1 = none :=
    releaseSlots_ok hosts sound inside
  have same := scheduler.releaseSlots_report (board.occupied.map (·.1)) board
  unfold conclude
  dsimp only
  rw [released]
  exact ⟨_, congrArg (EStateM.Result.ok · _) same⟩

variable {first : Front SlotBlocks}

theorem Hosts.opening_steady (sound : settings.Sound first.inner)
    (idle : ∀ slot row, first.inner.isLive slot row = false)
    (requests : List Request) : (scheduler.opening settings requests first).Steady settings vocabulary requests := by
  refine ⟨⟨sound, fun slot row live => ?_⟩, DecodeState.fresh_grid _ _, ?_, List.Subset.refl _,
    fun slot occupant taken => ?_⟩
  · have live : first.inner.isLive slot row = true := live
    rw [idle] at live
    cases live
  · change (List.replicate scheduler.executor.limits.maxConcurrentDecodes none).length = _
    rw [List.length_replicate, hosts.serving]
    rfl
  · cases List.eq_of_mem_replicate (List.mem_of_getElem? taken)

def Concludes {σ M P S V : Type} (scheduler : Scheduler σ M P S V) (requests : List Request) (stop : Nat → Bool)
    (first : σ) (scene : Scene σ S) : Prop :=
  (stop scene.board.report.generateSteps = true ∧
    ∃ engine, scheduler.run requests stop first = .ok { scene.board.report with interrupted := true } engine) ∨
  (scene.board.anyOccupied = false ∧ scene.waiting = [] ∧
    ∃ engine, scheduler.run requests stop first = .ok scene.board.report engine) ∨
  (scene.board.Busy ∧ ∃ fault engine after, scheduler.run requests stop first = .error fault engine ∧
    scheduler.executor.generate scheduler.model scene.state none scene.board.engine = .error fault after)

/-- Serving ends as its rounds do, and they need no more steps than it allows. -/
theorem Hosts.serve_rounds (sound : settings.Sound first.inner) (idle : ∀ slot row, first.inner.isLive slot row = false)
    (requests : List Request) (stop : Nat → Bool) :
    ∃ made ≤ stepBound requests, ∃ last scene,
      scheduler.Rounds stop (scheduler.opening settings requests first) made last
        (scheduler.serve requests stop (scheduler.start first)) ∧
      scheduler.EagerMoves (scheduler.opening settings requests first) scene ∧
      scheduler.Ending stop scene (scheduler.serve requests stop (scheduler.start first)) := by
  have steady := hosts.opening_steady sound idle requests
  obtain ⟨made, enough, last, ended, scene, rounds, moves, ending⟩ :=
    rounds_course hosts steady (opening_busy requests first)
  rw [opening_pending] at enough
  have started : Board.onEngine scheduler.executor.initState (scheduler.start first) =
      .ok (.fresh settings.maxConcurrentDecodes settings.samplesPerSlot) (scheduler.start first) := by
    rw [hosts.serving]
    rfl
  obtain rfl : scheduler.serve requests stop (scheduler.start first) = ended :=
    (bind_ok _ started).trans (serveFrom_of_rounds rounds enough)
  exact ⟨made, enough, last, scene, rounds, moves, ending⟩

theorem Hosts.run_course (sound : settings.Sound first.inner) (idle : ∀ slot row, first.inner.isLive slot row = false)
    (requests : List Request) (stop : Nat → Bool) :
    ∃ scene, scheduler.EagerMoves (scheduler.opening settings requests first) scene ∧
      scheduler.Concludes requests stop first scene := by
  obtain ⟨-, -, -, scene, -, moves, ending⟩ := hosts.serve_rounds sound idle requests stop
  have later := steady_eagers hosts (hosts.opening_steady sound idle requests) moves
  have course := scheduler.run_eq requests stop first
  refine ⟨scene, moves, ?_⟩
  generalize scheduler.serve requests stop (scheduler.start first) = ended at course ending
  cases ending with
  | stopped flag => exact .inl ⟨flag, (conclude_ok hosts later _).imp fun _ done => course.trans done⟩
  | drained none empty =>
    exact .inr (.inl ⟨none, empty, (conclude_ok hosts later _).imp fun _ done => course.trans done⟩)
  | broken busy failed => exact .inr (.inr ⟨busy, _, _, _, course, failed⟩)

end Scheduler

end SlotServe
