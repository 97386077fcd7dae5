import SlotServe.Proofs.Engine.Reach
import SlotServe.Engine.Front
import SlotServe.Engine.Table
import SlotServe.Proofs.Lists
import SlotServe.Proofs.Serve.Moves

/-! No request is lost. Requests are decided in the order in which they were submitted, and each is
decided once: it is admitted or it fails. Until the first of the queue is decided no other one is tried. -/
namespace SlotServe

variable {σ M P S V : Type}

theorem Board.free_of_firstFree {board : Board σ} {slot : Nat} (free : board.firstFree = some slot) :
    board.slots[slot]? = some none := by
  obtain ⟨inside, empty, _⟩ := List.findIdx?_eq_some_iff_getElem.mp free
  rw [List.getElem?_eq_getElem inside, Option.isNone_iff_eq_none.mp empty]

def seatedRequests (slots : List (Option Occupant)) : List Request :=
  (slots.map (·.map (·.request))).flatMap Option.toList

section

variable {slots : List (Option Occupant)} {slot : Nat}

theorem seatedRequests_set (free : slots[slot]? = some none) (occupant : Occupant) :
    (seatedRequests (slots.set slot (some occupant))).Perm (occupant.request :: seatedRequests slots) := by
  have found : (slots.map (·.map (·.request)))[slot]? = some none := by simp [free]
  obtain ⟨rest, before, after⟩ := flatMap_set_perm Option.toList found
  have filled := after (some occupant.request)
  rw [show some occupant.request = (some occupant).map (·.request) from rfl, ← List.map_set] at filled
  exact filled.trans (before.symm.cons occupant.request)

theorem seatedRequests_perm {occupant : Occupant} (taken : slots[slot]? = some (some occupant)) :
    (seatedRequests slots).Perm (occupant.request :: seatedRequests (slots.set slot none)) := by
  have found : (slots.map (·.map (·.request)))[slot]? = some (some occupant.request) := by simp [taken]
  obtain ⟨rest, before, after⟩ := flatMap_set_perm Option.toList found
  have emptied := after none
  rw [show none = (none : Option Occupant).map (·.request) from rfl, ← List.map_set] at emptied
  exact before.trans (emptied.symm.cons occupant.request)

end

theorem Board.seatedRequests_eq_nil {board : Board σ} (idle : board.anyOccupied = false) :
    seatedRequests board.slots = [] := by
  rw [Board.anyOccupied, List.any_eq_false] at idle
  rw [seatedRequests, List.flatMap_eq_nil_iff]
  intro request member
  obtain ⟨occupant, present, rfl⟩ := List.mem_map.mp member
  have empty := idle occupant present
  cases occupant with
  | none => rfl
  | some occupant => simp at empty

theorem Occupant.absorb_request {occupant after : Occupant} {buffer : ResultBuffer} {slot : Nat}
    (ok : occupant.absorb buffer slot = .ok after) : after.request = occupant.request := by
  obtain ⟨view, viewed, ok⟩ := except_links ok
  obtain ⟨rows, read, ok⟩ := except_links ok
  cases ok
  rfl

namespace Scheduler

theorem absorbAll_requests {buffer : ResultBuffer} {slot : Nat} {slots after : List (Option Occupant)}
    (ok : absorbAll buffer slot slots = .ok after) :
    after.map (·.map (·.request)) = slots.map (·.map (·.request)) := by
  induction slots generalizing slot after with
  | nil =>
    cases ok
    rfl
  | cons first rest ih =>
    cases first with
    | none =>
      obtain ⟨others, absorbed, ok⟩ := except_links ok
      cases ok
      rw [List.map_cons, List.map_cons, ih absorbed]
    | some occupant =>
      obtain ⟨grown, taken, ok⟩ := except_links ok
      obtain ⟨others, absorbed, ok⟩ := except_links ok
      cases ok
      rw [List.map_cons, List.map_cons, ih absorbed]
      simp [Occupant.absorb_request taken]

variable {scheduler : Scheduler σ M P S V}

theorem takeUp_request {request : Request} {first : ResultBuffer} {occupant : Occupant}
    (ok : scheduler.takeUp request first = .ok occupant) : occupant.request = request := by
  obtain ⟨copied, host, absorbed⟩ := except_links ok
  exact Occupant.absorb_request absorbed

end Scheduler

/-- What came of a request when it was first in the queue: so many refusals, then it was admitted, or
it failed. -/
structure Decision where
  request : Request
  refusals : Nat
  admitted : Bool

namespace Decision

def attempts (decision : Decision) : List (Option RequestId × Bool) :=
  List.replicate decision.refusals (some decision.request.id, false) ++
    if decision.admitted then [(some decision.request.id, true)] else []

end Decision

def Attempt.outcome (attempt : Attempt P) : Option RequestId × Bool :=
  (attempt.requestId, attempt.admitted)

/-- The requests decided so far stand before those that wait, every attempt was made for the first of
those not yet decided, and a request is in the report or in a slot according to its decision. -/
structure Orderly (requests : List Request) (decisions : List Decision) (refusals : Nat)
    (scene : Scene (Observed σ P) S) : Prop where
  queue : decisions.map (·.request) ++ scene.waiting = requests
  attempts : scene.board.engine.attempts.map Attempt.outcome = decisions.flatMap Decision.attempts ++
    (scene.waiting.take 1).flatMap fun request => List.replicate refusals (some request.id, false)
  failed : scene.board.report.failed = (decisions.filter (!·.admitted)).map (·.request.id)
  admitted : (scene.board.report.completions.map (·.id) ++ (seatedRequests scene.board.slots).map (·.id)).Perm
    ((decisions.filter (·.admitted)).map (·.request.id))

theorem Observed.onInner_attempts {ε α : Type} (act : EStateM ε σ α) (attempts : List (Attempt P)) :
    Keeps (fun observed : Observed σ P => observed.attempts = attempts) (Observed.onInner act) := by
  intro observed same
  unfold Observed.onInner zoom
  cases act observed.inner <;> exact same

namespace Scheduler

variable {scheduler : Scheduler (Observed σ P) M P S V} {executor : Executor σ M P S V}
  (watched : scheduler.executor = executor.observed)

include watched

theorem prefillAfter_attempts (tried : Nat) (request : Request) (engine : Observed σ P) :
    (left (scheduler.prefillAfter tried request engine)).attempts = engine.attempts := by
  have kept : Keeps (fun observed : Observed σ P => observed.attempts = engine.attempts)
      (scheduler.prefillAfter tried request) := by
    refine prefill_keeps ?_ ?_ request _
    · intro model request
      rw [watched]
      exact Observed.onInner_attempts _ _
    · intro model request seed count
      rw [watched]
      exact Observed.onInner_attempts _ _
  exact kept engine rfl

theorem free_attempts (slot : Nat) (engine : Observed σ P) :
    (left (scheduler.executor.free slot engine)).attempts = engine.attempts := by
  rw [watched]
  exact Observed.onInner_attempts _ _ engine rfl

theorem generate_attempts (model : M) (state : S) (sampler : Option Sampler) (engine : Observed σ P) :
    (left (scheduler.executor.generate model state sampler engine)).attempts = engine.attempts := by
  rw [watched]
  exact Observed.onInner_attempts _ _ engine rfl

theorem tryInsert_attempts (start : P) (state : S) (slot : Nat) (requestId : Option RequestId)
    (engine : Observed σ P) :
    match scheduler.executor.tryInsert start state slot requestId engine with
    | .ok _ after => after.attempts = engine.attempts ++ [⟨start, slot, requestId, true⟩]
    | .error _ after => after.attempts = engine.attempts ++ [⟨start, slot, requestId, false⟩] := by
  rw [watched]
  unfold Executor.observed Observed.attempting Observed.onInner zoom
  dsimp only
  cases executor.tryInsert start state slot requestId engine.inner <;> rfl

/-- The attempts for a request after its prefill and one try to insert it. -/
theorem tried_attempts {tried : Nat} {request : Request} {start : P} {first : ResultBuffer}
    {engine between : Observed σ P}
    (prefilled : scheduler.prefillAfter tried request engine = .ok (start, first) between) (state : S) (slot : Nat) :
    match scheduler.executor.tryInsert start state slot (some request.id) between with
    | .ok _ after => after.attempts = engine.attempts ++ [⟨start, slot, some request.id, true⟩]
    | .error _ after => after.attempts = engine.attempts ++ [⟨start, slot, some request.id, false⟩] := by
  have unseen := prefillAfter_attempts watched tried request engine
  rw [prefilled] at unseen
  have same : between.attempts = engine.attempts := unseen
  rw [← same]
  exact tryInsert_attempts watched start state slot (some request.id) between

theorem orderly_move {requests : List Request} {decisions : List Decision} {refusals : Nat}
    {scene next : Scene (Observed σ P) S} (orderly : Orderly requests decisions refusals scene)
    (move : scheduler.Move scene next) : ∃ decisions refusals, Orderly requests decisions refusals next := by
  obtain ⟨queue, attempts, failed, admitted⟩ := orderly
  cases move with
  | @spoil board waiting state tried slot request fault engine free spoilt =>
    -- A prefill that fails makes no attempt, and the request is decided with the refusals that it has.
    have unseen := prefillAfter_attempts watched tried request board.engine
    rw [spoilt] at unseen
    refine ⟨decisions ++ [⟨request, refusals, false⟩], 0, ?_, ?_, ?_, ?_⟩
    · simpa using queue
    · rw [show engine.attempts = board.engine.attempts from unseen, attempts]
      simp [Decision.attempts]
    · simpa using failed
    · simpa using admitted
  | @takeIn board waiting state tried slot request start first between next engine occupant free
      prefilled inserted seated =>
    have noted := tried_attempts watched prefilled state slot
    rw [inserted] at noted
    refine ⟨decisions ++ [⟨request, refusals, true⟩], 0, ?_, ?_, ?_, ?_⟩
    · simpa using queue
    · rw [noted, List.map_append, attempts]
      simp [Decision.attempts, Attempt.outcome]
    · simpa using failed
    · have joined := (seatedRequests_set (Board.free_of_firstFree free) occupant).map (·.id)
      rw [takeUp_request seated, List.map_cons] at joined
      simp only [List.filter_append, List.map_append]
      exact ((joined.append_left _).trans List.perm_middle).trans
        ((admitted.cons request.id).trans (List.perm_append_singleton _ _).symm)
  | @putOff board waiting state tried slot request start first between fault returned engine free
      prefilled refused crowded =>
    have noted := tried_attempts watched prefilled state slot
    rw [refused] at noted
    -- Nothing is decided yet: the same request has one more refusal.
    refine ⟨decisions, refusals + 1, queue, ?_, failed, admitted⟩
    rw [noted, List.map_append, attempts]
    simp [Attempt.outcome, List.replicate_succ']
  | @turnAway board waiting state tried slot request start first between fault returned engine free
      prefilled refused hopeless =>
    have noted := tried_attempts watched prefilled state slot
    rw [refused] at noted
    refine ⟨decisions ++ [⟨request, refusals + 1, false⟩], 0, ?_, ?_, ?_, ?_⟩
    · simpa using queue
    · rw [noted, List.map_append, attempts]
      simp [Decision.attempts, Attempt.outcome, List.replicate_succ']
    · simpa using failed
    · simpa using admitted
  | @retire board waiting state tried slot occupant engine seated done freed =>
    have unseen : engine.attempts = board.engine.attempts := by
      have kept := free_attempts watched slot board.engine
      rwa [freed] at kept
    have vacated := (seatedRequests_perm seated).map (·.id)
    refine ⟨decisions, refusals, queue, unseen ▸ attempts, failed, ?_⟩
    simp only [List.map_append, List.append_assoc]
    exact (vacated.append_left _).symm.trans admitted
  | @step board waiting state tried next buffer engine copied slots generated host absorbed =>
    have unseen : engine.attempts = board.engine.attempts := by
      have kept := generate_attempts watched scheduler.model state none board.engine
      rwa [generated] at kept
    refine ⟨decisions, refusals, queue, unseen ▸ attempts, failed, ?_⟩
    have same : seatedRequests slots = seatedRequests board.slots := by
      rw [seatedRequests, seatedRequests, absorbAll_requests absorbed]
    exact same ▸ admitted
  | interrupt => exact ⟨decisions, refusals, queue, attempts, failed, admitted⟩

theorem orderly_moves {requests : List Request} {scene next : Scene (Observed σ P) S}
    (orderly : ∃ decisions refusals, Orderly requests decisions refusals scene)
    (moves : scheduler.Moves scene next) : ∃ decisions refusals, Orderly requests decisions refusals next := by
  induction moves with
  | refl => exact orderly
  | tail _ move ih =>
    obtain ⟨decisions, refusals, orderly⟩ := ih
    exact orderly_move watched orderly move

omit watched in
theorem moves_width {scheduler : Scheduler σ M P S V} {scene next : Scene σ S}
    (moves : scheduler.Moves scene next) : next.board.slots.length = scene.board.slots.length := by
  induction moves with
  | refl => rfl
  | tail _ move ih =>
    cases move with
    | takeIn | retire => exact (List.length_set ..).trans ih
    | step generated host absorbed =>
      have length := congrArg List.length (absorbAll_requests absorbed)
      simp only [List.length_map] at length
      exact length.trans ih
    | spoil | putOff | turnAway | interrupt => exact ih

omit watched in
/-- Watching the executor gives the same run, and the attempts that it made. -/
theorem run_observed {scheduler : Scheduler σ M P S V} {requests : List Request} {stop : Nat → Bool}
    {first engine : σ} {report : Report} (ok : scheduler.run requests stop first = .ok report engine) :
    ∃ attempts : List (Attempt P), scheduler.observed.run requests stop ⟨[], first⟩ =
      .ok report ⟨attempts, engine⟩ := by
  have mirrored := mirrored_withExecutor (Executor.observed_mirrored scheduler.executor)
  have same := run_mirrors mirrored requests stop first ⟨[], first⟩ rfl
  rw [ok] at same
  generalize scheduler.observed.run requests stop ⟨[], first⟩ = ended at same
  cases same with
  | @ok _ _ observed watches =>
    obtain ⟨attempts, inner⟩ := observed
    cases watches
    exact ⟨attempts, rfl⟩

theorem releaseSlots_attempts (slots : List Nat) (board : Board (Observed σ P)) :
    (scheduler.releaseSlots slots board).2.engine.attempts = board.engine.attempts := by
  induction slots generalizing board with
  | nil => rfl
  | cons slot rest ih =>
    have kept := free_attempts watched slot board.engine
    unfold releaseSlots
    dsimp only
    split
    next _ engine freed =>
      rw [freed] at kept
      exact (ih _).trans kept
    next _ engine freed =>
      rw [freed] at kept
      exact (ih _).trans kept

theorem initState_attempts (engine : Observed σ P) :
    (left (scheduler.executor.initState engine)).attempts = engine.attempts := by
  rw [watched]
  exact Observed.onInner_attempts _ _ engine rfl

/-- At the end of a run that was not interrupted every request is decided. -/
theorem run_decides (slots : 0 < scheduler.executor.limits.maxConcurrentDecodes) {requests : List Request}
    {stop : Nat → Bool} {first engine : Observed σ P} {report : Report} (unused : first.attempts = [])
    (ok : scheduler.run requests stop first = .ok report engine) (finished : report.interrupted = false) :
    ∃ decisions : List Decision, decisions.map (·.request) = requests ∧
      engine.attempts.map Attempt.outcome = decisions.flatMap Decision.attempts ∧
      report.failed = (decisions.filter (!·.admitted)).map (·.request.id) ∧
      (report.completions.map (·.id)).Perm ((decisions.filter (·.admitted)).map (·.request.id)) := by
  obtain ⟨state, started, board, waiting, next, tries, initial, moves, finale, rfl, rfl⟩ := run_moves ok
  have quiet : started.attempts = [] := by
    have kept := initState_attempts watched first
    rw [initial] at kept
    exact kept.trans unused
  have begun : Orderly requests [] 0 ⟨scheduler.start started, requests, state, 0⟩ := by
    refine ⟨rfl, ?_, rfl, ?_⟩
    · simp [Scheduler.start, quiet]
    · simp [Scheduler.start, seatedRequests]
  obtain ⟨decisions, refusals, orderly⟩ := orderly_moves watched ⟨[], 0, begun⟩ moves
  have width : board.slots ≠ [] := by
    have length : board.slots.length = scheduler.executor.limits.maxConcurrentDecodes := by
      simpa [Scheduler.start] using moves_width moves
    intro none
    rw [none, List.length_nil] at length
    omega
  rcases finale with interrupted | ⟨idle, ends⟩
  · exact absurd interrupted (by simp [finished])
  · obtain rfl : waiting = [] := by
      rcases ends with none | full
      · exact none
      · exact absurd (Board.anyOccupied_of_full width full) (by simp [idle])
    have empty := Board.seatedRequests_eq_nil idle
    refine ⟨decisions, by simpa using orderly.queue, ?_, orderly.failed, ?_⟩
    · rw [releaseSlots_attempts watched]
      simpa using orderly.attempts
    · simpa [empty] using orderly.admitted

end Scheduler

/-- The attempts that succeed are those for the requests that are admitted, in the same order. -/
theorem Decision.admitted_attempts (decisions : List Decision) :
    ((decisions.flatMap Decision.attempts).filter (·.2)).map (·.1) =
      (decisions.filter (·.admitted)).map fun decision => some decision.request.id := by
  induction decisions with
  | nil => rfl
  | cons decision rest ih =>
    have refused : (List.replicate decision.refusals (some decision.request.id, false)).filter (·.2) = [] := by
      simp
    rw [List.flatMap_cons, List.filter_append, List.map_append, ih, Decision.attempts, List.filter_append,
      refused]
    cases kept : decision.admitted <;> simp [kept]

theorem Attempt.admitted_eq (attempts : List (Attempt P)) :
    (attempts.filter (·.admitted)).map (·.requestId) =
      ((attempts.map Attempt.outcome).filter (·.2)).map (·.1) := by
  rw [List.filter_map, List.map_map]
  rfl

/-- A run that is not interrupted decides every request once: its id is among the completions or among
the failures, as often as it was submitted. The prompts reach slots in the order of submission, and
failures are reported in it. While a request is put off, no other one is tried: the attempts are those
for the first request, then those for the second, and so on, each but the last of a request refused. -/
theorem requests_partitioned {settings : EngineSettings} (valid : settings.validate = .ok ()) {V : Type}
    {build : VocabularySource → Except Fault V}
    {scheduler : Scheduler (Front SlotBlocks) TransitionTable Prefilled DecodeState V}
    (serving : scheduler.executor = (settings.executor build).front) {requests : List Request}
    {stop : Nat → Bool} {first engine : Front SlotBlocks} {report : Report}
    (ok : scheduler.run requests stop first = .ok report engine) (finished : report.interrupted = false) :
    (report.completions.map (·.id) ++ report.failed).Perm (requests.map (·.id)) ∧
      report.failed.Sublist (requests.map (·.id)) ∧
      ∃ attempts, scheduler.observed.run requests stop ⟨[], first⟩ =
          .ok report ⟨attempts, engine⟩ ∧
        ((attempts.filter (·.admitted)).map (·.requestId)).Sublist (requests.map fun request => some request.id) ∧
        ∃ decisions : List Decision, decisions.map (·.request) = requests ∧
          attempts.map Attempt.outcome = decisions.flatMap Decision.attempts ∧
          report.failed = (decisions.filter (!·.admitted)).map (·.request.id) ∧
          (report.completions.map (·.id)).Perm ((decisions.filter (·.admitted)).map (·.request.id)) := by
  obtain ⟨attempts, watched⟩ := Scheduler.run_observed ok
  have slots : 0 < scheduler.observed.executor.limits.maxConcurrentDecodes := by
    change 0 < scheduler.executor.limits.maxConcurrentDecodes
    rw [serving]
    exact EngineSettings.size_of_valid valid (List.mem_cons_self ..)
  obtain ⟨decisions, decided, made, failed, completed⟩ :=
    Scheduler.run_decides rfl slots rfl watched finished
  refine ⟨?_, ?_, attempts, watched, ?_, decisions, decided, made, failed, completed⟩
  · rw [failed, ← decided, List.map_map]
    refine (completed.append_right _).trans ?_
    rw [← List.map_append]
    exact (List.filter_append_perm _ decisions).map _
  · rw [failed, ← decided, List.map_map]
    exact List.filter_sublist.map _
  · rw [Attempt.admitted_eq, made, Decision.admitted_attempts, ← decided, List.map_map]
    exact List.filter_sublist.map _

def EngineSettings.narrow : EngineSettings :=
  { maxConcurrentDecodes := 2, maxPrefillLength := 4, vocabSize := 1, blockSize := 4, numBlocks := 1 }

def narrowScheduler : Scheduler (Front SlotBlocks) TransitionTable Prefilled DecodeState Unit :=
  { executor := (EngineSettings.narrow.executor fun _ => .ok ()).front
    model := ⟨⟨[1, 1], .ofReals [0]⟩⟩
    buckets := []
    padId := 0 }

/-- The second prompt is too long, and the third has to wait for the block of the first. -/
def narrowRequests : List Request :=
  [⟨⟨1⟩, [0], 2⟩, ⟨⟨2⟩, [0, 0, 0, 0, 0], 1⟩, ⟨⟨3⟩, [0], 2⟩]

theorem narrow_requests_partitioned :
    EngineSettings.narrow.validate = .ok () ∧ ∃ report engine,
      narrowScheduler.run narrowRequests (fun _ => false) (.cold EngineSettings.narrow.freshCache) =
        .ok report engine ∧
      report.interrupted = false ∧ report.deferred = 1 ∧
      (report.completions.map (·.id) ++ report.failed).Perm [⟨1⟩, ⟨2⟩, ⟨3⟩] := by
  have valid : EngineSettings.narrow.validate = .ok () := rfl
  have served : (match narrowScheduler.run narrowRequests (fun _ => false)
      (.cold EngineSettings.narrow.freshCache) with
      | .ok report _ => !report.interrupted && report.deferred == 1
      | .error .. => false) = true := by decide +kernel
  refine ⟨valid, ?_⟩
  cases ended : narrowScheduler.run narrowRequests (fun _ => false)
    (.cold EngineSettings.narrow.freshCache) with
  | error => simp [ended] at served
  | ok report engine =>
    obtain ⟨finished, deferred⟩ : report.interrupted = false ∧ report.deferred = 1 := by
      simpa [ended] using served
    exact ⟨report, engine, rfl, finished, deferred, (requests_partitioned valid rfl ended finished).1⟩

end SlotServe
