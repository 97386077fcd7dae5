import SlotServe.Serve.Scheduler
import SlotServe.Proofs.Engine.Observed

/-! Serving over two executors that give the same answers. The boards agree at every step, so the runs
end alike, with the same report. A run over an observed executor is the run over the executor itself. -/
namespace SlotServe

variable {σ τ α M P S V : Type}

structure Board.Agree (Related : σ → τ → Prop) (board : Board σ) (other : Board τ) : Prop where
  slots : board.slots = other.slots
  report : board.report = other.report
  engine : Related board.engine other.engine

namespace Board

variable {Related : σ → τ → Prop}

theorem onEngine_mirrors {act : EStateM Fault σ α} {other : EStateM Fault τ α}
    (same : Mirrors Related act other) :
    Mirrors (Agree Related) (Board.onEngine act) (Board.onEngine other) :=
  mirrors_zoom (fun _ _ agree => agree.engine) (fun _ _ _ _ agree related => ⟨agree.slots, agree.report, related⟩) same

theorem note_mirrors (change : Report → Report) :
    Mirrors (Agree Related) (Board.note change) (Board.note change) :=
  fun _ _ agree => .ok () ⟨agree.slots, congrArg change agree.report, agree.engine⟩

theorem setSlot_mirrors (slot : Nat) (occupant : Option Occupant) :
    Mirrors (Agree Related) (Board.setSlot slot occupant) (Board.setSlot slot occupant) :=
  fun _ _ agree => .ok () ⟨congrArg (·.set slot occupant) agree.slots, agree.report, agree.engine⟩

namespace Agree

variable {board : Board σ} {other : Board τ}

theorem firstFree (agree : Agree Related board other) : board.firstFree = other.firstFree := by
  rw [Board.firstFree, Board.firstFree, agree.slots]

theorem anyOccupied (agree : Agree Related board other) : board.anyOccupied = other.anyOccupied := by
  rw [Board.anyOccupied, Board.anyOccupied, agree.slots]

theorem occupied (agree : Agree Related board other) : board.occupied = other.occupied := by
  rw [Board.occupied, Board.occupied, agree.slots]

theorem finished (agree : Agree Related board other) : board.finished = other.finished := by
  rw [Board.finished, Board.finished, agree.occupied]

end Agree

end Board

theorem mirrors_attempt {ε : Type} {Related : σ → τ → Prop} {act : EStateM ε σ α}
    {other : EStateM ε τ α} (same : Mirrors Related act other) :
    Mirrors Related (attempt act) (attempt other) := by
  intro state twin related
  have ended := same _ _ related
  unfold attempt
  generalize act state = first at ended
  generalize other twin = second at ended
  cases ended with
  | ok value related => exact SameEnd.ok (Except.ok value) related
  | error fault related => exact SameEnd.ok (Except.error fault) related

/-- What follows a look at the state mirrors when it does from every two related states. -/
theorem mirrors_get {ε : Type} {Related : σ → τ → Prop} {next : σ → EStateM ε σ α}
    {otherNext : τ → EStateM ε τ α}
    (rest : ∀ state twin, Related state twin → Mirrors Related (next state) (otherNext twin)) :
    Mirrors Related (get >>= next) (get >>= otherNext) :=
  fun state twin related => rest state twin related state twin related

namespace Scheduler

def withExecutor (scheduler : Scheduler σ M P S V) (executor : Executor τ M P S V) : Scheduler τ M P S V :=
  { executor, model := scheduler.model, buckets := scheduler.buckets, padId := scheduler.padId,
    seed := scheduler.seed }

abbrev observed (scheduler : Scheduler σ M P S V) : Scheduler (Observed σ P) M P S V :=
  scheduler.withExecutor scheduler.executor.observed

/-- The end of a run: occupied slots are freed, and a failure before that comes first. -/
def conclude (scheduler : Scheduler σ M P S V) (failure : Option Fault) (board : Board σ) :
    EStateM.Result Fault σ Report :=
  let released := scheduler.releaseSlots (board.occupied.map (·.1)) board
  match failure <|> released.1 with
  | some fault => .error fault released.2.engine
  | none => .ok released.2.report released.2.engine

theorem run_eq (scheduler : Scheduler σ M P S V) (requests : List Request) (stop : Nat → Bool) (engine : σ) :
    scheduler.run requests stop engine =
      match scheduler.serve requests stop (scheduler.start engine) with
      | .ok _ board => scheduler.conclude none board
      | .error fault board => scheduler.conclude (some fault) board := by
  unfold run
  dsimp only
  cases scheduler.serve requests stop (scheduler.start engine) <;> rfl

section

variable {Related : σ → τ → Prop} {scheduler : Scheduler σ M P S V} {twin : Executor τ M P S V}

theorem prefill_mirrors (mirrored : scheduler.executor.MirroredPrefill Related twin) (request : Request)
    (seed : UInt64) :
    Mirrors Related (scheduler.prefill request seed) ((scheduler.withExecutor twin).prefill request seed) := by
  refine mirrors_bind (mirrors_answer _) fun padded => ?_
  dsimp only [withExecutor]
  rw [mirrored.limits]
  split
  · exact mirrored.prefillMany _ _ _ _
  · exact mirrored.prefillChunked _ _

/-- What the prefill operations of the executor keep, the prefill of a request keeps. -/
theorem prefill_keeps {Holds : σ → Prop}
    (prefill : ∀ model request, Keeps Holds (scheduler.executor.prefill model request))
    (prefillMany : ∀ model request seed count,
      Keeps Holds (scheduler.executor.prefillMany model request seed count))
    (request : Request) (seed : UInt64) : Keeps Holds (scheduler.prefill request seed) := by
  have same : scheduler.executor.MirroredPrefill (fun state twin => state = twin ∧ Holds state)
      scheduler.executor :=
    ⟨rfl, fun model request => keeps_iff_mirrors.mp (prefill model request),
      fun model request seed count => keeps_iff_mirrors.mp (prefillMany model request seed count)⟩
  exact keeps_iff_mirrors.mpr (prefill_mirrors same request seed)

end

structure Mirrored (Related : σ → τ → Prop) (scheduler : Scheduler σ M P S V) (twin : Scheduler τ M P S V) :
    Prop where
  limits : scheduler.executor.limits = twin.executor.limits
  seed : scheduler.seed = twin.seed
  prefill : ∀ request seed, Mirrors Related (scheduler.prefill request seed) (twin.prefill request seed)
  generate : ∀ state, Mirrors Related (scheduler.executor.generate scheduler.model state none)
    (twin.executor.generate twin.model state none)
  tryInsert : ∀ start state slot requestId, Mirrors Related
    (scheduler.executor.tryInsert start state slot requestId) (twin.executor.tryInsert start state slot requestId)
  free : ∀ slot, Mirrors Related (scheduler.executor.free slot) (twin.executor.free slot)
  initState : Mirrors Related scheduler.executor.initState twin.executor.initState

variable {Related : σ → τ → Prop} {scheduler : Scheduler σ M P S V} {twin : Scheduler τ M P S V}

theorem mirrored_withExecutor {executor : Executor τ M P S V}
    (mirrored : scheduler.executor.Mirrored Related executor) :
    scheduler.Mirrored Related (scheduler.withExecutor executor) where
  limits := mirrored.limits
  seed := rfl
  prefill := prefill_mirrors mirrored.toMirroredPrefill
  generate _ := mirrored.generate _ _ _
  tryInsert := mirrored.tryInsert
  free := mirrored.free
  initState := mirrored.initState

variable (mirrored : scheduler.Mirrored Related twin)

include mirrored

theorem retire_mirrors (done : List (Nat × Occupant)) :
    Mirrors (Board.Agree Related) (scheduler.retire done) (twin.retire done) := by
  induction done with
  | nil => exact mirrors_pure ()
  | cons first rest ih =>
    exact mirrors_bind (Board.setSlot_mirrors _ _) fun _ =>
      mirrors_bind (Board.onEngine_mirrors (mirrored.free _)) fun _ =>
        mirrors_bind (Board.note_mirrors _) fun _ => ih

theorem retireAll_mirrors :
    Mirrors (Board.Agree Related) scheduler.retireAll twin.retireAll :=
  mirrors_get fun _ _ agree => agree.finished ▸ retire_mirrors mirrored _

theorem seat_mirrors (request : Request) (slot : Nat) (first : ResultBuffer) :
    Mirrors (Board.Agree Related) (scheduler.seat request slot first)
      (twin.seat request slot first) := by
  unfold Scheduler.seat
  rw [mirrored.limits]
  exact mirrors_bind (mirrors_answer _) fun occupant =>
    mirrors_bind (Board.note_mirrors _) fun _ =>
      mirrors_bind (Board.setSlot_mirrors _ _) fun _ => retireAll_mirrors mirrored

theorem fill_mirrors (waiting : List Request) (state : S) (tried : Nat) :
    Mirrors (Board.Agree Related) (scheduler.fill waiting state tried)
      (twin.fill waiting state tried) := by
  induction waiting generalizing state tried with
  | nil => exact mirrors_pure _
  | cons request waiting ih =>
    refine mirrors_get fun board other agree => ?_
    rw [agree.firstFree, mirrored.seed]
    cases other.firstFree with
    | none => exact mirrors_pure _
    | some slot =>
      refine mirrors_bind (Board.onEngine_mirrors (mirrors_attempt (mirrored.prefill _ _)))
        fun prefilled => ?_
      match prefilled with
      | .error _ => exact mirrors_bind (Board.note_mirrors _) fun _ => ih _ _
      | .ok (start, first) =>
        refine mirrors_bind (Board.note_mirrors _) fun _ =>
          mirrors_bind (Board.onEngine_mirrors (mirrors_attempt (mirrored.tryInsert _ _ _ _)))
            fun inserted => ?_
        match inserted with
        | .ok next => exact mirrors_bind (seat_mirrors mirrored _ _ _) fun _ => ih _ _
        | .error ⟨fault, none⟩ => exact mirrors_throw fault
        | .error ⟨fault, some returned⟩ =>
          refine mirrors_get fun board other agree => ?_
          rw [agree.anyOccupied]
          split
          · exact mirrors_bind (Board.note_mirrors _) fun _ => mirrors_pure _
          · exact mirrors_bind (Board.note_mirrors _) fun _ => ih _ _

theorem step_mirrors (state : S) :
    Mirrors (Board.Agree Related) (scheduler.step state) (twin.step state) := by
  refine mirrors_bind (Board.onEngine_mirrors (mirrored.generate _)) fun stepped =>
    mirrors_bind (mirrors_answer _) fun buffer => mirrors_bind (Board.note_mirrors _) fun _ =>
      mirrors_get fun board other agree => ?_
  rw [agree.slots]
  refine mirrors_bind (mirrors_answer _) fun slots => mirrors_bind ?_ fun _ =>
    mirrors_bind (Board.note_mirrors _) fun _ =>
      mirrors_bind (retireAll_mirrors mirrored) fun _ => mirrors_pure _
  exact fun _ _ _ => .ok () ⟨rfl, agree.report, agree.engine⟩

theorem serveFrom_mirrors (stop : Nat → Bool) (steps : Nat) (waiting : List Request) (state : S)
    (tried : Nat) :
    Mirrors (Board.Agree Related) (scheduler.serveFrom stop steps waiting state tried)
      (twin.serveFrom stop steps waiting state tried) := by
  induction steps generalizing waiting state tried with
  | zero =>
    refine mirrors_get fun board other agree => ?_
    rw [agree.report]
    split
    · exact Board.note_mirrors _
    · refine mirrors_bind (fill_mirrors mirrored _ _ _) fun filled => mirrors_get fun board other agree => ?_
      rw [agree.anyOccupied]
      split
      · exact mirrors_throw _
      · exact mirrors_pure _
  | succ steps ih =>
    refine mirrors_get fun board other agree => ?_
    rw [agree.report]
    split
    · exact Board.note_mirrors _
    · refine mirrors_bind (fill_mirrors mirrored _ _ _) fun filled => mirrors_get fun board other agree => ?_
      rw [agree.anyOccupied]
      split
      · exact mirrors_bind (step_mirrors mirrored _) fun next => ih _ _ _
      · exact mirrors_pure _

theorem serve_mirrors (requests : List Request) (stop : Nat → Bool) :
    Mirrors (Board.Agree Related) (scheduler.serve requests stop)
      (twin.serve requests stop) :=
  mirrors_bind (Board.onEngine_mirrors mirrored.initState) fun state =>
    serveFrom_mirrors mirrored stop _ requests state 0

theorem releaseSlots_mirrors (slots : List Nat) {board : Board σ} {other : Board τ}
    (agree : board.Agree Related other) :
    (scheduler.releaseSlots slots board).1 = (twin.releaseSlots slots other).1 ∧
      (scheduler.releaseSlots slots board).2.Agree Related
        (twin.releaseSlots slots other).2 := by
  induction slots generalizing board other with
  | nil => exact ⟨rfl, agree⟩
  | cons slot rest ih =>
    have freed := mirrored.free slot _ _ agree.engine
    unfold releaseSlots
    dsimp only
    generalize scheduler.executor.free slot board.engine = first at freed
    generalize twin.executor.free slot other.engine = second at freed
    have slots := congrArg (·.set slot none) agree.slots
    cases freed with
    | ok _ related => exact ih ⟨slots, agree.report, related⟩
    | error fault related =>
      refine ⟨rfl, And.right (ih ?_)⟩
      exact ⟨slots, agree.report, related⟩

theorem conclude_mirrors (failure : Option Fault) {board : Board σ} {other : Board τ}
    (agree : board.Agree Related other) :
    SameEnd Related (scheduler.conclude failure board) (twin.conclude failure other) := by
  obtain ⟨unreleased, after⟩ := releaseSlots_mirrors mirrored (board.occupied.map (·.1)) agree
  unfold conclude
  dsimp only
  rw [← agree.occupied, ← unreleased, ← after.report]
  split
  · exact .error _ after.engine
  · exact .ok _ after.engine

theorem run_mirrors (requests : List Request) (stop : Nat → Bool) :
    Mirrors Related (scheduler.run requests stop) (twin.run requests stop) := by
  intro engine other related
  have start : (scheduler.start engine).Agree Related (twin.start other) :=
    ⟨by rw [Scheduler.start, Scheduler.start, mirrored.limits], rfl, related⟩
  have served := serve_mirrors mirrored requests stop _ _ start
  rw [run_eq, run_eq]
  generalize scheduler.serve requests stop (scheduler.start engine) = first at served
  generalize twin.serve requests stop (twin.start other) = second at served
  cases served with
  | ok _ agree => exact conclude_mirrors mirrored none agree
  | error fault agree => exact conclude_mirrors mirrored (some fault) agree

end Scheduler

end SlotServe
