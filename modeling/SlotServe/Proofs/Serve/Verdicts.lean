import SlotServe.Proofs.Serve.Course

/-! Which requests fail. A request whose prefill succeeds is turned away only when no slot is in use, and then
the whole cache is free. So it fails exactly if it needs more blocks than there are, however often it was put
off before. A run itself fails only with a decode step that finds no block. -/
namespace SlotServe

variable {V : Type} {settings : EngineSettings} {build : VocabularySource → Except Fault V} {vocabulary : Nat}
  {cells : List UInt32}

def EngineSettings.share (settings : EngineSettings) (request : Request) : Nat :=
  Size.groups (request.prompt.length + max request.maxNewTokens 1) settings.blockSize

/-- What the blocks of one row of the request can store is a machine word, or else what all blocks can store
and one token more. -/
def EngineSettings.Countable (settings : EngineSettings) (request : Request) : Prop :=
  settings.share request * settings.blockSize < Size.limit ∨ settings.numBlocks * settings.blockSize + 1 < Size.limit

instance (settings : EngineSettings) (request : Request) : Decidable (settings.Countable request) :=
  inferInstanceAs (Decidable (_ ∨ _))

theorem EngineSettings.Countable.row {request : Request} (countable : settings.Countable request)
    (sized : 0 < settings.blockSize) {table : BlockTable} (snug : table.Snug settings.blockSize)
    (held : table.blocks.length ≤ settings.numBlocks)
    (short : table.numTokens + 1 ≤ request.prompt.length + max request.maxNewTokens 1) :
    table.Countable settings.numBlocks 1 := by
  have size : table.blockSize = settings.blockSize := snug.sized.trans (Nat.max_eq_left sized)
  have room := snug.room
  have fewer : Size.groups (table.numTokens + 1) settings.blockSize ≤ settings.share request := Size.groups_mono short _
  rw [size] at room
  constructor
  · rcases countable with own | whole
    · have filled := (Size.groups_le_iff sized (settings.share request)).mp (Nat.le_refl _)
      omega
    · have capacity := Nat.mul_le_mul_right settings.blockSize held
      omega
  · intro enough
    rw [size] at enough
    rw [BlockTable.Storable, size]
    rcases countable with own | whole
    · exact (Nat.mul_le_mul_right settings.blockSize fewer).trans_lt own
    · have capacity := Nat.mul_le_mul_right settings.blockSize enough
      omega

namespace Scheduler

/-- The request is not served even by an empty executor. -/
def Hopeless (scheduler : Scheduler (Front SlotBlocks) TransitionTable Prefilled DecodeState V)
    (settings : EngineSettings) (request : Request) : Prop :=
  scheduler.Rejects request ∨ settings.numBlocks < settings.footprint (request.prompt.length + 1)

open scoped Classical in
structure Judged (scheduler : Scheduler (Front SlotBlocks) TransitionTable Prefilled DecodeState V)
    (settings : EngineSettings) (decided : List Request) (board : Board (Front SlotBlocks)) : Prop where
  failed : board.report.failed = (decided.filter fun request => scheduler.Hopeless settings request).map (·.id)
  served : (board.report.completions.map (·.id) ++ (seatedRequests board.slots).map (·.id)).Perm
    ((decided.filter fun request => ¬scheduler.Hopeless settings request).map (·.id))

variable {scheduler : Scheduler (Front SlotBlocks) TransitionTable Prefilled DecodeState V} {decided : List Request}
  {board : Board (Front SlotBlocks)} {request : Request} {engine : Front SlotBlocks} {report : Report}

theorem Judged.condemn (judged : scheduler.Judged settings decided board)
    (hopeless : scheduler.Hopeless settings request)
    (failed : report.failed = board.report.failed ++ [request.id])
    (completions : report.completions = board.report.completions) :
    scheduler.Judged settings (decided ++ [request]) ⟨board.slots, report, engine⟩ := by
  constructor
  · rw [failed, judged.failed]
    simp [hopeless]
  · rw [completions]
    simpa [hopeless] using judged.served

theorem Judged.acquit (judged : scheduler.Judged settings decided board)
    (hopeful : ¬scheduler.Hopeless settings request)
    {slot : Nat} (free : board.slots[slot]? = some none) {occupant : Occupant} (same : occupant.request = request)
    (failed : report.failed = board.report.failed) (completions : report.completions = board.report.completions) :
    scheduler.Judged settings (decided ++ [request]) ⟨board.slots.set slot (some occupant), report, engine⟩ := by
  constructor
  · rw [failed, judged.failed]
    simp [hopeful]
  · have joined := (seatedRequests_set free occupant).map (·.id)
    rw [same, List.map_cons] at joined
    have seated := ((joined.append_left (board.report.completions.map (·.id))).trans List.perm_middle).trans
      ((judged.served.cons request.id).trans (List.perm_append_singleton _ _).symm)
    simpa [completions, hopeful] using seated

section

variable (hosts : scheduler.Hosts settings build vocabulary)

include hosts

theorem Hosts.rejects {tried : Nat} {fault : Fault} {after : Front SlotBlocks}
    (failed : scheduler.prefillAfter tried request engine = .error fault after) : scheduler.Rejects request := by
  intro tries state
  cases again : scheduler.prefillAfter tries request state with
  | error fault after => exact ⟨fault, after, rfl⟩
  | ok found after =>
    obtain ⟨other, ok⟩ := prefill_whenever (prefillsBy hosts.serving) again
      (scheduler.seed + UInt64.ofNat tried) engine
    cases failed.symm.trans ok

theorem Hosts.accepts {tried : Nat} {found : Prefilled × ResultBuffer} {after : Front SlotBlocks}
    (ok : scheduler.prefillAfter tried request engine = .ok found after) (tries : Nat) (state : Front SlotBlocks) :
    ∃ found, scheduler.prefillAfter tries request state = .ok found state :=
  prefill_whenever (prefillsBy hosts.serving) ok _ state

end

variable (serves : scheduler.Serves settings build vocabulary cells) {requests : List Request}
  {scene later : Scene (Front SlotBlocks) DecodeState}

include serves

theorem Serves.slots : 0 < settings.maxConcurrentDecodes := serves.hosts.slots

theorem Serves.accepts {tried : Nat} {found : Prefilled × ResultBuffer} {after : Front SlotBlocks}
    (ok : scheduler.prefillAfter tried request engine = .ok found after) (tries : Nat) (state : Front SlotBlocks) :
    ∃ found, scheduler.prefillAfter tries request state = .ok found state :=
  serves.hosts.accepts ok tries state

theorem opening_steady {first : Front SlotBlocks} (sound : settings.Sound first.inner)
    (idle : ∀ slot row, first.inner.isLive slot row = false) (requests : List Request) :
    (scheduler.opening settings requests first).Steady settings vocabulary requests :=
  serves.hosts.opening_steady sound idle requests

theorem eagers_keep {Holds : Scene (Front SlotBlocks) DecodeState → Prop}
    (keeps : ∀ {scene later}, Scene.Steady settings vocabulary requests scene → scheduler.Eager scene later →
      Holds scene → Holds later)
    (steady : scene.Steady settings vocabulary requests) (holds : Holds scene)
    (moves : scheduler.EagerMoves scene later) :
    later.Steady settings vocabulary requests ∧ Holds later :=
  serves.hosts.eagers_keep keeps steady holds moves

theorem run_course {first : Front SlotBlocks} (sound : settings.Sound first.inner)
    (idle : ∀ slot row, first.inner.isLive slot row = false) (requests : List Request) (stop : Nat → Bool) :
    ∃ scene, scheduler.EagerMoves (scheduler.opening settings requests first) scene ∧
      scheduler.Concludes requests stop first scene :=
  serves.hosts.run_course sound idle requests stop

omit serves in
theorem free_of_idle (steady : scene.Steady settings vocabulary requests) (idle : scene.board.anyOccupied = false) :
    scene.board.engine.inner.pool.numFree = settings.numBlocks := by
  refine (steady.attended.sound.released fun slot row => ?_).2
  by_contra live
  rw [Bool.not_eq_false] at live
  obtain ⟨occupant, taken⟩ := steady.attended.taken slot row live (by simp)
  exact List.any_eq_false.mp idle _ (List.mem_of_getElem? taken) rfl

/-- Every move decides as it must. A request that is put off is not decided. -/
theorem judged_eager (steady : scene.Steady settings vocabulary requests) (eager : scheduler.Eager scene later)
    (judged : ∃ decided, decided ++ scene.waiting = requests ∧ scheduler.Judged settings decided scene.board) :
    ∃ decided, decided ++ later.waiting = requests ∧ scheduler.Judged settings decided later.board := by
  obtain ⟨decided, queue, judged⟩ := judged
  obtain ⟨move, -, -⟩ := eager
  cases move with
  | spoil free failed =>
    exact ⟨decided ++ [_], by simpa using queue, judged.condemn (.inl (serves.hosts.rejects failed)) rfl rfl⟩
  | takeIn free prefilled inserted seated =>
    obtain ⟨rfl, -, occupant, taken, same, -, -⟩ := serves.hosts.prefill_ok prefilled
    cases taken.symm.trans seated
    refine ⟨decided ++ [_], by simpa using queue, judged.acquit ?_ (Board.free_of_firstFree free) same rfl rfl⟩
    rintro (rejects | large)
    · obtain ⟨fault, after, failed⟩ := rejects _ _
      cases failed.symm.trans prefilled
    -- What the insert drew from the pool an empty cache has as well.
    · have total := steady.attended.sound.accounted.pool.numFree_add
      rcases insert_hinges serves.hosts steady free prefilled _ with ⟨enough, -⟩ | ⟨-, fault, engine, refused, -⟩
      · exact absurd (enough.trans (Nat.le.intro total)) (Nat.not_le.mpr large)
      · cases refused.symm.trans inserted
  | putOff free prefilled refused crowded => exact ⟨decided, queue, judged.failed, judged.served⟩
  | turnAway free prefilled refused hopeless =>
    obtain ⟨rfl, -⟩ := serves.hosts.prefill_ok prefilled
    refine ⟨decided ++ [_], by simpa using queue, judged.condemn (.inr ?_) rfl rfl⟩
    rcases insert_hinges serves.hosts steady free prefilled _ with
      ⟨-, next, engine, inserted⟩ | ⟨short, fault, engine, turned, lacking⟩
    · cases inserted.symm.trans refused
    · cases turned.symm.trans refused
      rw [lacking, Bool.true_and] at hopeless
      rwa [free_of_idle steady hopeless] at short
  | retire seated done freed =>
    have vacated := (seatedRequests_perm seated).map (·.id)
    refine ⟨decided, queue, judged.failed, ?_⟩
    simp only [List.map_append, List.append_assoc]
    exact (vacated.append_left _).symm.trans judged.served
  | step generated host absorbed =>
    have same : seatedRequests _ = seatedRequests _ :=
      congrArg (List.flatMap Option.toList) (absorbAll_requests absorbed)
    exact ⟨decided, queue, judged.failed, same ▸ judged.served⟩
  | interrupt => exact ⟨decided, queue, judged.failed, judged.served⟩

theorem generate_lacks (steady : scene.Steady settings vocabulary requests) (busy : scene.board.Busy) {fault : Fault}
    {after : Front SlotBlocks}
    (failed : scheduler.executor.generate scheduler.model scene.state none scene.board.engine = .error fault after) :
    fault.isOutOfBlocks = true ∨ (∃ cause, fault = .defect cause) ∧
      ∃ request ∈ requests, ¬settings.Countable request := by
  have grow (cache : SlotBlocks) (slot row : Nat) (table : BlockTable) (sound : settings.Sound cache)
      (found : cache.table? slot row = some table)
      (short : ∃ request ∈ requests, table.numTokens + 1 ≤ request.prompt.length + max request.maxNewTokens 1) :
      Ends settings.Sound (fun fault => fault.isOutOfBlocks = true ∨
        (∃ cause, fault = .defect cause) ∧ ∃ request ∈ requests, ¬settings.Countable request)
        (SlotBlocks.reserve slot row 1 cache) := by
    obtain ⟨request, member, short⟩ := short
    by_cases countable : settings.Countable request
    · have snug := sound.accounted.snug slot row table found
      have held := sound.accounted.held_le found
      have counts := countable.row serves.hosts.sized snug (by omega) short
      exact (EngineSettings.reserve_short sound found counts).imp id .inl
    · have later := (EngineSettings.sound_kept slot).reserve row 1 cache sound
      cases ended : SlotBlocks.reserve slot row 1 cache with
      | ok _ after => rwa [ended] at later
      | error fault after =>
        exact (SlotBlocks.reserve_failed found ended).symm.imp_right fun broken => ⟨broken, request, member, countable⟩
  have ends := steady.generate_ends serves grow steady.attended.sound fun slot row table occupant taken _ exact => by
    obtain ⟨member, decodes⟩ := steady.seated slot occupant taken
    have unfinished := decodes.unfinished serves.hosts.positive (busy slot occupant taken)
    exact ⟨occupant.request, member, by omega⟩
  rw [serves.hosts.generate_error failed] at ends
  exact ends

omit serves in
theorem opening_judged (requests : List Request) (first : Front SlotBlocks) :
    scheduler.Judged settings [] (scheduler.opening settings requests first).board := by
  have nobody : seatedRequests (scheduler.opening settings requests first).board.slots = [] := by
    simp [opening, start, seatedRequests]
  exact ⟨rfl, by rw [nobody]; rfl⟩

end Scheduler

open scoped Classical in
/-- Which requests a run over an idle executor fails does not depend on what else it serves. A request is
among the failed ones exactly if its own prefill is rejected, whatever was admitted before, or its prompt and
first token need more blocks than the executor has, and all others are completed. A run that is interrupted
has decided the first requests so. A run fails only with a decode step, for want of blocks as long as the
tokens of every request can be counted. -/
theorem requests_judged_by_empty_cache (valid : settings.validate = .ok ()) (word : settings.blockSize < Size.limit)
    {scheduler : Scheduler (Front SlotBlocks) TransitionTable Prefilled DecodeState V}
    (serving : scheduler.executor = (settings.executor build).front)
    (square : scheduler.model.Square vocabulary cells) {first : Front SlotBlocks}
    (reached : (settings.executor build).Reaches settings.freshCache first.inner)
    (idle : ∀ slot row, first.inner.isLive slot row = false) (requests : List Request) (stop : Nat → Bool) :
    (∀ request, ¬scheduler.Rejects request → ∀ tried engine,
      ∃ found, scheduler.prefillAfter tried request engine = .ok found engine) ∧
    (∀ report engine, scheduler.run requests stop first = .ok report engine →
      ∃ decided waiting, decided ++ waiting = requests ∧
        report.failed = (decided.filter fun request => scheduler.Hopeless settings request).map (·.id) ∧
        (report.interrupted = false → waiting = [] ∧ (report.completions.map (·.id)).Perm
          ((decided.filter fun request => ¬scheduler.Hopeless settings request).map (·.id)))) ∧
    ∀ fault engine, scheduler.run requests stop first = .error fault engine →
      ∃ scene after, scheduler.Moves (scheduler.opening settings requests first) scene ∧
        scheduler.executor.generate scheduler.model scene.state none scene.board.engine = .error fault after ∧
        (fault.isOutOfBlocks = true ∨
          (∃ cause, fault = .defect cause) ∧ ∃ request ∈ requests, ¬settings.Countable request) := by
  have serves : scheduler.Serves settings build vocabulary cells := ⟨serving, valid, word, square⟩
  have steady := Scheduler.opening_steady serves (EngineSettings.sound_of_reaches reached) idle requests
  obtain ⟨scene, moves, course⟩ :=
    Scheduler.run_course serves (EngineSettings.sound_of_reaches reached) idle requests stop
  obtain ⟨later, decided, queue, judged⟩ := Scheduler.eagers_keep serves (Scheduler.judged_eager serves) steady
    ⟨[], rfl, Scheduler.opening_judged requests first⟩ moves
  refine ⟨fun request accepted tried engine => ?_, fun report engine ended => ?_, fun fault engine ended => ?_⟩
  · simp only [Scheduler.Rejects, not_forall, not_exists] at accepted
    obtain ⟨tries, state, never⟩ := accepted
    cases prefilled : scheduler.prefillAfter tries request state with
    | error fault after => exact absurd prefilled (never fault after)
    | ok found after => exact serves.accepts prefilled tried engine
  · rcases course with ⟨-, _, done⟩ | ⟨nobody, empty, _, done⟩ | ⟨-, _, _, _, failed, -⟩
    · cases done.symm.trans ended
      exact ⟨decided, scene.waiting, queue, judged.failed, nofun⟩
    · cases done.symm.trans ended
      have served := judged.served
      rw [Board.seatedRequests_eq_nil nobody, List.map_nil, List.append_nil] at served
      exact ⟨decided, scene.waiting, queue, judged.failed, fun _ => ⟨empty, served⟩⟩
    · cases failed.symm.trans ended
  · rcases course with ⟨-, _, done⟩ | ⟨-, -, _, done⟩ | ⟨busy, _, _, after, failed, broken⟩
    · cases done.symm.trans ended
    · cases done.symm.trans ended
    · cases failed.symm.trans ended
      exact ⟨scene, after, moves.lift id fun _ _ eager => eager.move, broken,
        Scheduler.generate_lacks serves later busy broken⟩

def unfitRequests : List Request := narrowRequests ++ [⟨⟨4⟩, [0, 0, 0, 0], 1⟩]

open scoped Classical in
theorem unfit_requests_judged_by_empty_cache :
    (∃ report engine, narrowScheduler.run unfitRequests (fun _ => false) (.cold EngineSettings.narrow.freshCache) =
        .ok report engine ∧
      report.failed = [⟨2⟩, ⟨4⟩] ∧ 1 < report.deferred ∧
      report.failed = (unfitRequests.filter fun request =>
        narrowScheduler.Hopeless EngineSettings.narrow request).map (·.id)) ∧
    ∃ fault engine, starvedScheduler.run starvedRequests (fun _ => false) (.cold EngineSettings.starved.freshCache) =
        .error fault engine ∧ fault.isOutOfBlocks = true ∧
      ∃ scene after, starvedScheduler.Moves
          (starvedScheduler.opening EngineSettings.starved starvedRequests (.cold EngineSettings.starved.freshCache)) scene ∧
        starvedScheduler.executor.generate starvedScheduler.model scene.state none scene.board.engine =
          .error fault after := by
  have idle (settings : EngineSettings) (slot row : Nat) :
      (Front.cold settings.freshCache).inner.isLive slot row = false :=
    SlotBlocks.isLive_fresh ..
  constructor
  · have serving : narrowScheduler.executor = (EngineSettings.narrow.executor fun _ => .ok ()).front := rfl
    have square : narrowScheduler.model.Square 1 [0] := ⟨rfl, rfl⟩
    obtain ⟨-, judged, -⟩ := requests_judged_by_empty_cache rfl (by decide) serving square .start (idle _) unfitRequests
      fun _ => false
    have served : (match narrowScheduler.run unfitRequests (fun _ => false) (.cold EngineSettings.narrow.freshCache) with
        | .ok report _ => decide (report.failed = [⟨2⟩, ⟨4⟩] ∧ 1 < report.deferred ∧ report.interrupted = false)
        | .error .. => false) = true := by decide +kernel
    cases ended : narrowScheduler.run unfitRequests (fun _ => false) (.cold EngineSettings.narrow.freshCache) with
    | error => simp [ended] at served
    | ok report engine =>
      obtain ⟨failed, deferred, finished⟩ : report.failed = [⟨2⟩, ⟨4⟩] ∧ 1 < report.deferred ∧
          report.interrupted = false := by simpa [ended] using served
      obtain ⟨decided, waiting, queue, verdicts, whole⟩ := judged report engine ended
      obtain ⟨rfl, -⟩ := whole finished
      rw [List.append_nil] at queue
      exact ⟨report, engine, rfl, failed, deferred, queue ▸ verdicts⟩
  · have serving : starvedScheduler.executor = (EngineSettings.starved.executor fun _ => .ok ()).front := rfl
    have square : starvedScheduler.model.Square 1 [0] := ⟨rfl, rfl⟩
    obtain ⟨-, -, broken⟩ := requests_judged_by_empty_cache rfl (by decide) serving square .start (idle _)
      starvedRequests fun _ => false
    have countable : ∀ request ∈ starvedRequests, EngineSettings.starved.Countable request := by decide
    have failing : (match starvedScheduler.run starvedRequests (fun _ => false) (.cold EngineSettings.starved.freshCache)
        with
        | .ok .. => false
        | .error .. => true) = true := by decide +kernel
    cases ended : starvedScheduler.run starvedRequests (fun _ => false) (.cold EngineSettings.starved.freshCache) with
    | ok => simp [ended] at failing
    | error fault engine =>
      obtain ⟨scene, after, moves, failed, full | ⟨-, request, member, uncounted⟩⟩ := broken fault engine ended
      · exact ⟨fault, engine, rfl, full, scene, after, moves, failed⟩
      · exact absurd (countable request member) uncounted

end SlotServe
