import SlotServe.Proofs.Serve.Moves

/-! The loop of serving without a bound on its steps. A round looks at the flag, fills the slots and makes a
step if one of them is occupied. Whatever bound the steps of the loop suffice for is no part of how it ends. -/
namespace SlotServe

variable {σ M P S V : Type}

namespace Scheduler

section

variable (scheduler : Scheduler σ M P S V) (stop : Nat → Bool)

/-- How the rounds from a scene end, after how many decode steps, the last of which may fail, and how many
admissions have been tried by then. -/
inductive Rounds : Scene σ S → Nat → Nat → EStateM.Result Fault (Board σ) Unit → Prop
  /-- The flag is raised. -/
  | stopped {board waiting state tried} (flag : stop board.report.generateSteps = true) :
      Rounds ⟨board, waiting, state, tried⟩ 0 tried
        (.ok () { board with report := { board.report with interrupted := true } })
  /-- No slot is occupied once the slots are filled. -/
  | drained {board waiting state tried left next tries filled} (going : stop board.report.generateSteps = false)
      (filling : scheduler.fill waiting state tried board = .ok (left, next, tries) filled)
      (idle : filled.anyOccupied = false) : Rounds ⟨board, waiting, state, tried⟩ 0 tries (.ok () filled)
  /-- The step of the round fails. -/
  | broken {board waiting state tried left next tries filled fault after}
      (going : stop board.report.generateSteps = false)
      (filling : scheduler.fill waiting state tried board = .ok (left, next, tries) filled)
      (occupied : filled.anyOccupied = true) (failed : scheduler.step next filled = .error fault after) :
      Rounds ⟨board, waiting, state, tried⟩ 1 tries (.error fault after)
  /-- The round makes its step, and others follow. -/
  | stepped {board waiting state tried left next tries filled later between made last ended}
      (going : stop board.report.generateSteps = false)
      (filling : scheduler.fill waiting state tried board = .ok (left, next, tries) filled)
      (occupied : filled.anyOccupied = true) (stepping : scheduler.step next filled = .ok later between)
      (rest : Rounds ⟨between, left, later, tries⟩ made last ended) :
      Rounds ⟨board, waiting, state, tried⟩ (made + 1) last ended

end

variable {scheduler : Scheduler σ M P S V} {stop : Nat → Bool} {scene next : Scene σ S} {made last : Nat}
  {ended : EStateM.Result Fault (Board σ) Unit}

theorem serveFrom_filled {board filled : Board σ} {waiting left : List Request} {state next : S} {tried tries : Nat}
    (going : stop board.report.generateSteps = false)
    (filling : scheduler.fill waiting state tried board = .ok (left, next, tries) filled) (steps : Nat) :
    scheduler.serveFrom stop steps waiting state tried board =
      (if filled.anyOccupied then
        match steps with
        | 0 => throw Fault.stalled
        | fewer + 1 => scheduler.step next >>= fun later => scheduler.serveFrom stop fewer left later tries
      else pure ()) filled := by
  rw [serveFrom, get_bind]
  dsimp only
  rw [going, if_neg Bool.false_ne_true, bind_ok _ filling]
  rfl

/-- Serving with enough steps ends as the rounds do. -/
theorem serveFrom_of_rounds (rounds : scheduler.Rounds stop scene made last ended) {steps : Nat}
    (enough : made ≤ steps) :
    scheduler.serveFrom stop steps scene.waiting scene.state scene.tried scene.board = ended := by
  -- Each round of the derivation is one unfolding of the loop, and uses up a step where it makes one.
  induction rounds generalizing steps with
  | stopped flag =>
    unfold serveFrom
    rw [get_bind]
    dsimp only
    rw [if_pos flag]
    rfl
  | drained going filling idle =>
    rw [serveFrom_filled going filling, idle]
    rfl
  | broken going filling occupied failed =>
    obtain ⟨fewer, rfl⟩ : ∃ fewer, steps = fewer + 1 := ⟨steps - 1, by omega⟩
    rw [serveFrom_filled going filling, if_pos occupied]
    exact bind_error _ failed
  | stepped going filling occupied stepping rest ih =>
    obtain ⟨fewer, rfl⟩ : ∃ fewer, steps = fewer + 1 := ⟨steps - 1, by omega⟩
    rw [serveFrom_filled going filling, if_pos occupied]
    exact (bind_ok _ stepping).trans (ih (Nat.le_of_succ_le_succ enough))

theorem quiets_steps (moves : scheduler.QuietMoves scene next) :
    next.board.report.generateSteps = scene.board.report.generateSteps := by
  induction moves with
  | refl => rfl
  | tail _ quiet ih => exact quiet.steps.trans ih

/-- An admission decides the first request, or puts it off. -/
theorem moves_tried (moves : scheduler.Moves scene next) :
    next.tried + next.waiting.length + scene.board.report.deferred =
      scene.tried + scene.waiting.length + next.board.report.deferred := by
  induction moves with
  | refl => rfl
  | tail _ move ih =>
    cases move with
    | spoil | takeIn | turnAway | putOff =>
      simp only [List.length_cons] at ih ⊢
      omega
    | retire | step | interrupt => exact ih

/-- A round that puts a request off goes on with a step. So the admissions that are tried are no more than
the requests and the steps together. -/
theorem Rounds.admissions (rounds : scheduler.Rounds stop scene made last ended) :
    last ≤ scene.tried + scene.waiting.length + made := by
  induction rounds with
  | stopped => exact Nat.le_add_right _ _
  | drained going filling idle =>
    obtain ⟨moves, -, deferred⟩ := fill_moves filling
    have tried := moves_tried (moves_of_quiet moves)
    have same := deferred.resolve_right (by simp [idle])
    dsimp only at tried ⊢
    omega
  | broken going filling occupied failed =>
    obtain ⟨moves, -, deferred⟩ := fill_moves filling
    have tried := moves_tried (moves_of_quiet moves)
    dsimp only at tried ⊢
    omega
  | stepped going filling occupied stepping rest ih =>
    obtain ⟨moves, -, deferred⟩ := fill_moves filling
    have tried := moves_tried (moves_of_quiet moves)
    dsimp only at tried ih ⊢
    omega

theorem Rounds.counts {after : Board σ} (rounds : scheduler.Rounds stop scene made last (.ok () after)) :
    after.report.generateSteps = scene.board.report.generateSteps + made ∧
      after.report.deferred ≤ scene.board.report.deferred + made := by
  generalize ending : EStateM.Result.ok () after = ended at rounds
  induction rounds with
  | stopped flag =>
    cases ending
    exact ⟨rfl, Nat.le_refl _⟩
  | drained going filling idle =>
    cases ending
    obtain ⟨moves, -, deferred⟩ := fill_moves filling
    exact ⟨quiets_steps moves, Nat.le_of_eq (deferred.resolve_right (by simp [idle]))⟩
  | broken => cases ending
  | stepped going filling occupied stepping rest ih =>
    obtain ⟨steps, fewer⟩ := ih ending
    obtain ⟨moves, -, deferred⟩ := fill_moves filling
    have filled := quiets_steps moves
    obtain ⟨_, -, step, -, retired, same⟩ := step_moves stepping [] 0
    have between := quiets_steps retired
    dsimp only at steps fewer filled between ⊢
    omega

end Scheduler

end SlotServe
