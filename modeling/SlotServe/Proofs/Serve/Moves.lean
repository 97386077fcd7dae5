import Mathlib.Logic.Relation
import SlotServe.Proofs.Lists
import SlotServe.Proofs.Serve.Mirror

/-! What a run does, move by move. A run that succeeds is a sequence of moves from the fresh board, at
whose end it was interrupted or nothing waits and no slot is occupied. What every move keeps therefore
holds when a run ends. -/
namespace SlotServe

variable {σ α M P S V : Type}

structure Scene (σ S : Type) where
  board : Board σ
  waiting : List Request
  state : S
  /-- The admissions tried so far. -/
  tried : Nat

namespace Scheduler

variable (scheduler : Scheduler σ M P S V)

def prefillAfter (tried : Nat) (request : Request) : EStateM Fault σ (P × ResultBuffer) :=
  scheduler.prefill request (scheduler.seed + UInt64.ofNat tried)

def takeUp (request : Request) (first : ResultBuffer) : Except Fault Occupant := do
  (Occupant.ofRequest request scheduler.executor.limits.samplesPerSlot).absorb (← first.toHost) 0

inductive Move : Scene σ S → Scene σ S → Prop
  /-- The first request fails with its prefill. -/
  | spoil {board waiting state tried slot request fault engine}
      (free : board.firstFree = some slot)
      (failed : scheduler.prefillAfter tried request board.engine = .error fault engine) :
      Move ⟨board, request :: waiting, state, tried⟩
        ⟨⟨board.slots, { board.report with failed := board.report.failed ++ [request.id] }, engine⟩,
          waiting, state, tried + 1⟩
  /-- The first request is taken up. -/
  | takeIn {board waiting state tried slot request start first between next engine occupant}
      (free : board.firstFree = some slot)
      (prefilled : scheduler.prefillAfter tried request board.engine = .ok (start, first) between)
      (inserted : scheduler.executor.tryInsert start state slot (some request.id) between = .ok next engine)
      (seated : scheduler.takeUp request first = .ok occupant) :
      Move ⟨board, request :: waiting, state, tried⟩
        ⟨⟨board.slots.set slot (some occupant),
          { board.report with
            prefills := board.report.prefills + 1
            tokensGenerated := board.report.tokensGenerated + occupant.numTokens }, engine⟩,
          waiting, next, tried + 1⟩
  /-- The first request finds no room, and waits on. -/
  | putOff {board waiting state tried slot request start first between fault returned engine}
      (free : board.firstFree = some slot)
      (prefilled : scheduler.prefillAfter tried request board.engine = .ok (start, first) between)
      (refused : scheduler.executor.tryInsert start state slot (some request.id) between =
        .error ⟨fault, some returned⟩ engine)
      (crowded : (fault.isOutOfBlocks && board.anyOccupied) = true) :
      Move ⟨board, request :: waiting, state, tried⟩
        ⟨⟨board.slots,
          { board.report with
            prefills := board.report.prefills + 1
            deferred := board.report.deferred + 1 }, engine⟩,
          request :: waiting, returned, tried + 1⟩
  /-- The first request fails because the executor does not take it. -/
  | turnAway {board waiting state tried slot request start first between fault returned engine}
      (free : board.firstFree = some slot)
      (prefilled : scheduler.prefillAfter tried request board.engine = .ok (start, first) between)
      (refused : scheduler.executor.tryInsert start state slot (some request.id) between =
        .error ⟨fault, some returned⟩ engine)
      (hopeless : (fault.isOutOfBlocks && board.anyOccupied) = false) :
      Move ⟨board, request :: waiting, state, tried⟩
        ⟨⟨board.slots,
          { board.report with
            prefills := board.report.prefills + 1
            failed := board.report.failed ++ [request.id] }, engine⟩,
          waiting, returned, tried + 1⟩
  /-- A request has all its tokens and leaves its slot. -/
  | retire {board waiting state tried slot occupant engine}
      (seated : board.slots[slot]? = some (some occupant)) (done : occupant.isDone = true)
      (freed : scheduler.executor.free slot board.engine = .ok () engine) :
      Move ⟨board, waiting, state, tried⟩
        ⟨⟨board.slots.set slot none,
          { board.report with completions := board.report.completions ++ [occupant.completion slot] },
          engine⟩, waiting, state, tried⟩
  /-- Every occupied slot gets one more token. -/
  | step {board waiting state tried next buffer engine copied slots}
      (generated : scheduler.executor.generate scheduler.model state none board.engine =
        .ok (next, buffer) engine)
      (host : buffer.toHost = .ok copied) (absorbed : absorbAll copied 0 board.slots = .ok slots) :
      Move ⟨board, waiting, state, tried⟩
        ⟨⟨slots,
          { board.report with
            generateSteps := board.report.generateSteps + 1
            tokensGenerated := board.report.tokensGenerated +
              (seatedTokens slots - seatedTokens board.slots) }, engine⟩, waiting, next, tried⟩
  /-- The run is stopped before its end. -/
  | interrupt {board waiting state tried} :
      Move ⟨board, waiting, state, tried⟩
        ⟨{ board with report := { board.report with interrupted := true } }, waiting, state, tried⟩

abbrev Moves : Scene σ S → Scene σ S → Prop := Relation.ReflTransGen scheduler.Move

structure Quiet (scene next : Scene σ S) : Prop where
  move : scheduler.Move scene next
  steps : next.board.report.generateSteps = scene.board.report.generateSteps
  interrupted : next.board.report.interrupted = scene.board.report.interrupted

abbrev QuietMoves : Scene σ S → Scene σ S → Prop := Relation.ReflTransGen scheduler.Quiet

end Scheduler

theorem Board.onEngine_success {act : EStateM Fault σ α} {board after : Board σ} {value : α}
    (ok : Board.onEngine act board = .ok value after) :
    ∃ engine, act board.engine = .ok value engine ∧ after = { board with engine } :=
  zoom_success ok

theorem Board.onEngine_ok {act : EStateM Fault σ α} {board : Board σ} {engine : σ} {value : α}
    (ok : act board.engine = .ok value engine) : Board.onEngine act board = .ok value { board with engine } := by
  unfold onEngine zoom
  rw [ok]

theorem Board.onEngine_error {act : EStateM Fault σ α} {board : Board σ} {engine : σ} {fault : Fault}
    (failed : act board.engine = .error fault engine) :
    Board.onEngine act board = .error fault { board with engine } := by
  unfold onEngine zoom
  rw [failed]

theorem Board.mem_occupied {board : Board σ} {slot : Nat} {occupant : Occupant} :
    (slot, occupant) ∈ board.occupied ↔ board.slots[slot]? = some (some occupant) := by
  simp only [Board.occupied, List.mem_filterMap, Option.map_eq_some_iff, Prod.mk.injEq, Prod.exists,
    List.mk_mem_zipIdx_iff_getElem?]
  constructor
  · rintro ⟨_, _, present, found, rfl, rfl, rfl⟩
    exact present
  · intro present
    exact ⟨_, slot, present, occupant, rfl, rfl, rfl⟩

theorem Board.occupied_nodup (board : Board σ) : (board.occupied.map (·.1)).Nodup := by
  rw [List.Nodup, List.pairwise_map]
  refine List.Pairwise.filterMap _ ?_ (zipIdx_pairwise board.slots)
  rintro ⟨_, slot⟩ ⟨_, slot'⟩ different entry present entry' present'
  obtain ⟨_, _, rfl⟩ := Option.map_eq_some_iff.mp present
  obtain ⟨_, _, rfl⟩ := Option.map_eq_some_iff.mp present'
  exact different

theorem Board.anyOccupied_of_full {board : Board σ} (slots : board.slots ≠ [])
    (full : board.firstFree = none) : board.anyOccupied = true := by
  obtain ⟨first, rest, shape⟩ := List.exists_cons_of_ne_nil slots
  have taken : first.isNone = false := List.findIdx?_eq_none_iff.mp full first (by simp [shape])
  cases first with
  | none => cases taken
  | some occupant => simp [Board.anyOccupied, shape]

namespace Scheduler

variable {scheduler : Scheduler σ M P S V}

theorem moves_of_quiet {scene next : Scene σ S} (moves : scheduler.QuietMoves scene next) :
    scheduler.Moves scene next :=
  moves.lift id fun _ _ quiet => quiet.move

theorem retire_links {slot : Nat} {occupant : Occupant} {rest : List (Nat × Occupant)} {board after : Board σ}
    (ok : scheduler.retire ((slot, occupant) :: rest) board = .ok () after) :
    ∃ engine, scheduler.executor.free slot board.engine = .ok () engine ∧
      scheduler.retire rest ⟨board.slots.set slot none,
        { board.report with completions := board.report.completions ++ [occupant.completion slot] }, engine⟩ =
          .ok () after := by
  obtain ⟨_, _, vacated, ok⟩ := bind_links ok
  cases vacated
  obtain ⟨_, _, freeing, ok⟩ := bind_links ok
  obtain ⟨engine, freed, rfl⟩ := Board.onEngine_success freeing
  obtain ⟨_, _, noted, ok⟩ := bind_links ok
  cases noted
  exact ⟨engine, freed, ok⟩

theorem retire_moves {done : List (Nat × Occupant)} {board after : Board σ}
    (seated : ∀ slot occupant, (slot, occupant) ∈ done → board.slots[slot]? = some (some occupant))
    (finished : ∀ slot occupant, (slot, occupant) ∈ done → occupant.isDone = true)
    (distinct : (done.map (·.1)).Nodup) (ok : scheduler.retire done board = .ok () after)
    (waiting : List Request) (state : S) (tried : Nat) :
    scheduler.QuietMoves ⟨board, waiting, state, tried⟩ ⟨after, waiting, state, tried⟩ := by
  induction done generalizing board with
  | nil =>
    cases ok
    exact .refl
  | cons entry rest ih =>
    obtain ⟨slot, occupant⟩ := entry
    obtain ⟨engine, freed, ok⟩ := retire_links ok
    simp only [List.map_cons, List.nodup_cons] at distinct
    have first : scheduler.Quiet ⟨board, waiting, state, tried⟩ _ :=
      ⟨.retire (seated slot occupant (by simp)) (finished slot occupant (by simp)) freed, rfl, rfl⟩
    refine .head first (ih ?_ (fun slot occupant member => finished slot occupant (by simp [member]))
      distinct.2 ok)
    intro other occupant member
    have different : slot ≠ other := by
      rintro rfl
      exact distinct.1 (List.mem_map.mpr ⟨_, member, rfl⟩)
    rw [List.getElem?_set_ne different]
    exact seated other occupant (by simp [member])

theorem retire_deferred {done : List (Nat × Occupant)} {board after : Board σ}
    (ok : scheduler.retire done board = .ok () after) : after.report.deferred = board.report.deferred := by
  induction done generalizing board with
  | nil =>
    cases ok
    rfl
  | cons entry rest ih =>
    obtain ⟨engine, -, ok⟩ := retire_links ok
    have kept := ih ok
    exact kept

theorem retireAll_moves {board after : Board σ} (ok : scheduler.retireAll board = .ok () after)
    (waiting : List Request) (state : S) (tried : Nat) :
    scheduler.QuietMoves ⟨board, waiting, state, tried⟩ ⟨after, waiting, state, tried⟩ := by
  refine retire_moves ?_ ?_ ?_ ok waiting state tried
  · intro slot occupant member
    exact Board.mem_occupied.mp (List.mem_filter.mp member).1
  · intro slot occupant member
    exact (List.mem_filter.mp member).2
  · exact board.occupied_nodup.sublist (List.filter_sublist.map _)

theorem retireAll_deferred {board after : Board σ} (ok : scheduler.retireAll board = .ok () after) :
    after.report.deferred = board.report.deferred := by
  have retired : scheduler.retire board.finished board = .ok () after := ok
  exact retire_deferred retired

theorem seat_moves {request : Request} {slot : Nat} {first : ResultBuffer} {board after : Board σ}
    (ok : scheduler.seat request slot first board = .ok () after) :
    after.report.deferred = board.report.deferred ∧ ∃ occupant, scheduler.takeUp request first = .ok occupant ∧
      ∀ waiting state tried, scheduler.QuietMoves
        ⟨⟨board.slots.set slot (some occupant),
          { board.report with tokensGenerated := board.report.tokensGenerated + occupant.numTokens },
          board.engine⟩, waiting, state, tried⟩ ⟨after, waiting, state, tried⟩ := by
  obtain ⟨occupant, _, absorbing, noting⟩ := bind_links ok
  obtain ⟨absorbed, rfl⟩ := answer_success absorbing
  obtain ⟨_, _, noted, seating⟩ := bind_links noting
  cases noted
  obtain ⟨_, _, seated, retired⟩ := bind_links seating
  cases seated
  have kept := retireAll_deferred retired
  exact ⟨kept, occupant, absorbed,
    fun waiting state tried => retireAll_moves retired waiting state tried⟩

/-- Filling moves on the head of the queue only, and ends when the queue is empty, every slot is taken,
or the first request waits for an occupied slot. No other request is put off. -/
theorem fill_moves {waiting left : List Request} {state next : S} {tried tries : Nat}
    {board after : Board σ}
    (ok : scheduler.fill waiting state tried board = .ok (left, next, tries) after) :
    scheduler.QuietMoves ⟨board, waiting, state, tried⟩ ⟨after, left, next, tries⟩ ∧
      (left = [] ∨ after.firstFree = none ∨ after.anyOccupied = true) ∧
      (after.report.deferred = board.report.deferred ∨
        (after.report.deferred = board.report.deferred + 1 ∧ after.anyOccupied = true)) := by
  -- Every way through the loop is one move, or an admission and the retirements after it.
  induction waiting generalizing state tried board with
  | nil =>
    cases ok
    exact ⟨.refl, .inl rfl, .inl rfl⟩
  | cons request waiting ih =>
    unfold fill at ok
    rw [get_bind] at ok
    cases free : board.firstFree with
    | none =>
      rw [free] at ok
      cases ok
      exact ⟨.refl, .inr (.inl free), .inl rfl⟩
    | some slot =>
      rw [free] at ok
      dsimp only at ok
      obtain ⟨prefilled, _, trying, ok⟩ := bind_links ok
      obtain ⟨between, attempted, rfl⟩ := Board.onEngine_success trying
      have prefilling := attempt_success attempted
      match prefilled, prefilling, ok with
      | .error fault, failed, ok =>
        obtain ⟨_, _, noted, ok⟩ := bind_links ok
        cases noted
        obtain ⟨rest, ends, deferred⟩ := ih ok
        exact ⟨.head ⟨.spoil free failed, rfl, rfl⟩ rest, ends, deferred⟩
      | .ok (start, first), prefilled, ok =>
        obtain ⟨_, _, noted, ok⟩ := bind_links ok
        cases noted
        obtain ⟨inserted, _, trying, ok⟩ := bind_links ok
        obtain ⟨engine, attempted, rfl⟩ := Board.onEngine_success trying
        have inserting := attempt_success attempted
        match inserted, inserting, ok with
        | .ok filled, inserted, ok =>
          obtain ⟨_, _, seating, ok⟩ := bind_links ok
          obtain ⟨same, occupant, seated, retired⟩ := seat_moves seating
          obtain ⟨rest, ends, deferred⟩ := ih ok
          rw [same] at deferred
          exact ⟨.head ⟨.takeIn free prefilled inserted seated, rfl, rfl⟩ ((retired _ _ _).trans rest), ends, deferred⟩
        | .error ⟨fault, none⟩, _, ok => cases ok
        | .error ⟨fault, some returned⟩, refused, ok =>
          dsimp only at ok
          rw [get_bind] at ok
          split at ok
          next crowded =>
            obtain ⟨_, _, noted, ok⟩ := bind_links ok
            cases noted
            cases ok
            have occupied := (Bool.and_eq_true_iff.mp crowded).2
            exact ⟨.single ⟨.putOff free prefilled refused crowded, rfl, rfl⟩, .inr (.inr occupied),
              .inr ⟨rfl, occupied⟩⟩
          next hopeless =>
            obtain ⟨_, _, noted, ok⟩ := bind_links ok
            cases noted
            obtain ⟨rest, ends, deferred⟩ := ih ok
            have hopeless := Bool.eq_false_iff.mpr hopeless
            exact ⟨.head ⟨.turnAway free prefilled refused hopeless, rfl, rfl⟩ rest, ends, deferred⟩

theorem step_moves {state next : S} {board after : Board σ}
    (ok : scheduler.step state board = .ok next after) (waiting : List Request) (tried : Nat) :
    ∃ stepped, scheduler.Move ⟨board, waiting, state, tried⟩ stepped ∧
      stepped.board.report.generateSteps = board.report.generateSteps + 1 ∧
      stepped.board.report.interrupted = board.report.interrupted ∧
      scheduler.QuietMoves stepped ⟨after, waiting, next, tried⟩ ∧
      after.report.deferred = board.report.deferred := by
  obtain ⟨⟨next, buffer⟩, _, generating, ok⟩ := bind_links ok
  obtain ⟨engine, generated, rfl⟩ := Board.onEngine_success generating
  obtain ⟨copied, _, copying, ok⟩ := bind_links ok
  obtain ⟨host, rfl⟩ := answer_success copying
  obtain ⟨_, _, noted, ok⟩ := bind_links ok
  cases noted
  rw [get_bind] at ok
  obtain ⟨slots, _, absorbing, ok⟩ := bind_links ok
  obtain ⟨absorbed, rfl⟩ := answer_success absorbing
  obtain ⟨_, _, stored, ok⟩ := bind_links ok
  cases stored
  obtain ⟨_, _, noted, ok⟩ := bind_links ok
  cases noted
  obtain ⟨_, _, retired, ok⟩ := bind_links ok
  cases ok
  have kept := retireAll_deferred retired
  exact ⟨_, .step generated host absorbed, rfl, rfl, retireAll_moves retired waiting next tried, kept⟩

def Scene.Over (scene : Scene σ S) : Prop :=
  scene.board.report.interrupted = true ∨
    (scene.board.anyOccupied = false ∧ (scene.waiting = [] ∨ scene.board.firstFree = none))

/-- Serving is stopped, or fills the slots and ends, or fills them, makes a step and goes on. -/
theorem serveFrom_cases {stop : Nat → Bool} {steps : Nat} {waiting : List Request} {state : S}
    {tried : Nat} {board after : Board σ}
    (ok : scheduler.serveFrom stop steps waiting state tried board = .ok () after) :
    after = { board with report := { board.report with interrupted := true } } ∨
      ∃ left next tries filled, scheduler.fill waiting state tried board = .ok (left, next, tries) filled ∧
        ((filled.anyOccupied = false ∧ after = filled) ∨
          ∃ fewer stepped between, steps = fewer + 1 ∧ scheduler.step next filled = .ok stepped between ∧
            scheduler.serveFrom stop fewer left stepped tries between = .ok () after) := by
  unfold serveFrom at ok
  rw [get_bind] at ok
  dsimp only at ok
  split at ok
  next =>
    cases ok
    exact .inl rfl
  next =>
    obtain ⟨⟨left, next, tries⟩, filled, filling, going⟩ := bind_links ok
    refine .inr ⟨left, next, tries, filled, filling, ?_⟩
    rw [get_bind] at going
    split at going
    next =>
      cases steps with
      | zero => cases going
      | succ fewer =>
        obtain ⟨stepped, between, stepping, serving⟩ := bind_links going
        exact .inr ⟨fewer, stepped, between, rfl, stepping, serving⟩
    next idle =>
      cases going
      exact .inl ⟨by simpa using idle, rfl⟩

theorem serveFrom_moves {stop : Nat → Bool} {steps : Nat} {waiting : List Request} {state : S}
    {tried : Nat} {board after : Board σ}
    (ok : scheduler.serveFrom stop steps waiting state tried board = .ok () after) :
    ∃ left next tries, scheduler.Moves ⟨board, waiting, state, tried⟩ ⟨after, left, next, tries⟩ ∧
      Scene.Over ⟨after, left, next, tries⟩ := by
  induction steps generalizing waiting state tried board with
  | zero =>
    rcases serveFrom_cases ok with rfl | ⟨left, next, tries, filled, filling, ⟨idle, rfl⟩ | ⟨fewer, _, _, none, _⟩⟩
    · exact ⟨_, _, _, .single .interrupt, .inl rfl⟩
    · obtain ⟨moves, ends, -⟩ := fill_moves filling
      exact ⟨left, next, tries, moves_of_quiet moves, .inr ⟨idle, by simpa [idle] using ends⟩⟩
    · cases none
  | succ steps ih =>
    rcases serveFrom_cases ok with rfl | ⟨left, next, tries, filled, filling, ⟨idle, rfl⟩ |
      ⟨_, stepped, between, same, stepping, serving⟩⟩
    · exact ⟨_, _, _, .single .interrupt, .inl rfl⟩
    · obtain ⟨moves, ends, -⟩ := fill_moves filling
      exact ⟨left, next, tries, moves_of_quiet moves, .inr ⟨idle, by simpa [idle] using ends⟩⟩
    · cases same
      obtain ⟨moves, -⟩ := fill_moves filling
      obtain ⟨_, step, -, -, retired, -⟩ := step_moves stepping left tries
      obtain ⟨left, next, tries, rest, finale⟩ := ih serving
      exact ⟨left, next, tries, (moves_of_quiet moves).trans (.head step ((moves_of_quiet retired).trans rest)), finale⟩

theorem serve_moves {requests : List Request} {stop : Nat → Bool} {board after : Board σ}
    (ok : scheduler.serve requests stop board = .ok () after) :
    ∃ state engine left next tries, scheduler.executor.initState board.engine = .ok state engine ∧
      scheduler.Moves ⟨{ board with engine }, requests, state, 0⟩ ⟨after, left, next, tries⟩ ∧
      Scene.Over ⟨after, left, next, tries⟩ := by
  obtain ⟨state, _, starting, serving⟩ := bind_links ok
  obtain ⟨engine, initial, rfl⟩ := Board.onEngine_success starting
  obtain ⟨left, next, tries, moves, finale⟩ := serveFrom_moves serving
  exact ⟨state, engine, left, next, tries, initial, moves, finale⟩

theorem releaseSlots_report (slots : List Nat) (board : Board σ) :
    (scheduler.releaseSlots slots board).2.report = board.report := by
  induction slots generalizing board with
  | nil => rfl
  | cons slot rest ih =>
    unfold releaseSlots
    dsimp only
    split
    · exact ih _
    · exact ih _

/-- The release of the slots at the end of a run does not show in its report. -/
theorem run_links {requests : List Request} {stop : Nat → Bool} {first engine : σ} {report : Report}
    (ok : scheduler.run requests stop first = .ok report engine) :
    ∃ board, scheduler.serve requests stop (scheduler.start first) = .ok () board ∧ board.report = report ∧
      (scheduler.releaseSlots (board.occupied.map (·.1)) board).2.engine = engine := by
  rw [run_eq] at ok
  split at ok
  next board served =>
    refine ⟨board, served, ?_⟩
    unfold conclude at ok
    dsimp only at ok
    split at ok
    next => cases ok
    next =>
      cases ok
      exact ⟨(releaseSlots_report _ board).symm, rfl⟩
  next fault board served =>
    cases ok

/-- A run that succeeds moves from the fresh board to one where serving is over. The slots that are
still occupied are freed after that. -/
theorem run_moves {requests : List Request} {stop : Nat → Bool} {first engine : σ} {report : Report}
    (ok : scheduler.run requests stop first = .ok report engine) :
    ∃ state started board left next tries, scheduler.executor.initState first = .ok state started ∧
      scheduler.Moves ⟨scheduler.start started, requests, state, 0⟩ ⟨board, left, next, tries⟩ ∧
      Scene.Over ⟨board, left, next, tries⟩ ∧ board.report = report ∧
      (scheduler.releaseSlots (board.occupied.map (·.1)) board).2.engine = engine := by
  obtain ⟨board, served, reported, released⟩ := run_links ok
  obtain ⟨state, started, left, next, tries, initial, moves, finale⟩ := serve_moves served
  exact ⟨state, started, board, left, next, tries, initial, moves, finale, reported, released⟩

end Scheduler

end SlotServe
