import SlotServe.Proofs.Serve.Counters

/-! A cache that is large enough. As long as the blocks suffice for all slots with the largest of the
requests in each, no request waits for blocks and no step lacks them, so that every request is completed. -/
namespace SlotServe

variable {V : Type} {settings : EngineSettings} {build : VocabularySource → Except Fault V} {vocabulary : Nat}
  {cells : List UInt32} {requests : List Request} {most : Nat} {scene later : Scene (Front SlotBlocks) DecodeState}

def EngineSettings.largestShare (settings : EngineSettings) (requests : List Request) : Nat :=
  (requests.map settings.share).foldr max 0

theorem EngineSettings.share_le_largest {request : Request} (member : request ∈ requests) :
    settings.share request ≤ settings.largestShare requests := by
  induction requests with
  | nil => cases member
  | cons first rest ih =>
    change _ ≤ max (settings.share first) (settings.largestShare rest)
    rcases List.mem_cons.mp member with rfl | later
    · exact Nat.le_max_left _ _
    · exact (ih later).trans (Nat.le_max_right _ _)

theorem EngineSettings.footprint_le (settings : EngineSettings) (request : Request) :
    settings.footprint (request.prompt.length + 1) ≤ settings.samplesPerSlot * settings.share request :=
  Nat.mul_le_mul_left _ (Size.groups_mono (by omega) _)

variable {scheduler : Scheduler (Front SlotBlocks) TransitionTable Prefilled DecodeState V}
  (serves : scheduler.Serves settings build vocabulary cells)
  (short : ∀ request ∈ requests, settings.share request ≤ most)

include serves short

theorem Scene.Steady.capped (steady : scene.Steady settings vocabulary requests) :
    scene.board.engine.inner.Capped most := by
  intro slot row table found
  have sound := steady.attended.sound
  have snug := sound.accounted.snug slot row table found
  by_cases live : scene.board.engine.inner.isLive slot row = true
  · obtain ⟨occupant, taken⟩ := steady.attended.taken slot row live (by simp)
    obtain ⟨member, decodes⟩ := steady.seated slot occupant taken
    obtain ⟨_, table', -, -, -, found', exact⟩ := decodes.rows row (Grid.inside sound.shaped found).2
    obtain rfl := Option.some.inj (found.symm.trans found')
    have within := decodes.within
    rw [snug.exact, Nat.max_eq_left serves.hosts.sized]
    exact (Size.groups_mono (by omega) _).trans (short _ member)
  · have none : table.blocks = [] := by simpa [SlotBlocks.isLive, found, BlockTable.isEmpty] using live
    simp [none]

variable (ample : settings.maxConcurrentDecodes * (settings.samplesPerSlot * most) ≤ settings.numBlocks)

include ample

namespace Scheduler

theorem generate_ample (countable : ∀ request ∈ requests, settings.Countable request)
    (steady : scene.Steady settings vocabulary requests) (busy : scene.board.Busy) {fault : Fault}
    {after : Front SlotBlocks} :
    scheduler.executor.generate scheduler.model scene.state none scene.board.engine ≠ .error fault after := by
  intro failed
  have sound := steady.attended.sound
  have grow (cache : SlotBlocks) (slot row : Nat) (table : BlockTable)
      (holds : settings.Sound cache ∧ cache.Capped most)
      (found : cache.table? slot row = some table)
      (ready : table.Countable settings.numBlocks 1 ∧ Size.groups (table.numTokens + 1) settings.blockSize ≤ most) :
      Ends (fun cache => settings.Sound cache ∧ cache.Capped most) (fun _ => False)
        (SlotBlocks.reserve slot row 1 cache) :=
    EngineSettings.reserve_within serves.hosts.sized ample holds found ready.1 ready.2
  have ends := steady.generate_ends serves grow ⟨sound, steady.capped serves short⟩
    fun slot row table occupant taken found exact => by
      obtain ⟨member, decodes⟩ := steady.seated slot occupant taken
      have unfinished := decodes.unfinished serves.hosts.positive (busy slot occupant taken)
      have snug := sound.accounted.snug slot row table found
      have held := sound.accounted.held_le found
      have growing : table.numTokens + 1 ≤ occupant.request.prompt.length + max occupant.request.maxNewTokens 1 := by
        omega
      exact ⟨(countable _ member).row serves.hosts.sized snug (by omega) growing,
        (Size.groups_mono growing _).trans (short _ member)⟩
  rw [serves.hosts.generate_error failed] at ends
  exact ends

theorem undeferred_eager (steady : scene.Steady settings vocabulary requests) (eager : scheduler.Eager scene later)
    (undeferred : scene.board.report.deferred = 0 ∧ scene.board.report.interrupted = false) :
    later.board.report.deferred = 0 ∧ later.board.report.interrupted = false := by
  obtain ⟨move, interrupted, -⟩ := eager
  rw [interrupted]
  refine ⟨?_, undeferred.2⟩
  cases move with
  | putOff free prefilled refused crowded =>
    obtain ⟨rfl, -⟩ := serves.hosts.prefill_ok prefilled
    have inside := steady.width ▸ (List.getElem?_eq_some_iff.mp (Board.free_of_firstFree free)).1
    have sound := steady.attended.sound
    have idle := idle_of_free steady free
    have room := (steady.capped serves short).slot_room sound.accounted sound.shaped ample inside idle
    have share := Nat.mul_le_mul_left settings.samplesPerSlot (short _ (steady.queued (List.mem_cons_self ..)))
    rcases insert_hinges serves.hosts steady free prefilled _ with ⟨-, next, engine, inserted⟩ | ⟨lacking, -⟩
    · cases inserted.symm.trans refused
    · exact absurd ((settings.footprint_le _).trans (share.trans room)) (Nat.not_le.mpr lacking)
  | spoil | takeIn | turnAway | retire | step | interrupt => exact undeferred.1

omit serves short ample in
theorem Judged.spared {decided : List Request} {board : Board (Front SlotBlocks)}
    (judged : scheduler.Judged settings decided board)
    (hopeful : ∀ request ∈ decided, ¬scheduler.Hopeless settings request) :
    board.report.failed = [] ∧
      (board.report.completions.map (·.id) ++ (seatedRequests board.slots).map (·.id)).Perm (decided.map (·.id)) := by
  obtain ⟨failed, served⟩ := judged
  rw [List.filter_eq_nil_iff.mpr (by simpa using hopeful)] at failed
  rw [List.filter_eq_self.mpr (by simpa using hopeful)] at served
  exact ⟨failed, served⟩

omit serves in
theorem hopeful_of_ample (slots : 0 < settings.maxConcurrentDecodes) {request : Request} (member : request ∈ requests)
    (accepted : ¬scheduler.Rejects request) : ¬scheduler.Hopeless settings request := by
  rintro (rejects | large)
  · exact accepted rejects
  · have share := Nat.mul_le_mul_left settings.samplesPerSlot (short request member)
    have whole := Nat.le_mul_of_pos_left (settings.samplesPerSlot * most) slots
    exact absurd (((settings.footprint_le request).trans share).trans (whole.trans ample)) (Nat.not_le.mpr large)

end Scheduler

omit serves short ample

/-- With blocks for the largest of the requests in every slot, a run that is not interrupted completes each of
them with all the tokens that it asked for, and none of them ever waits for blocks. The tokens of each request can be
counted. -/
theorem ample_cache_completes_all {settings : EngineSettings} (valid : settings.validate = .ok ())
    (word : settings.blockSize < Size.limit)
    {scheduler : Scheduler (Front SlotBlocks) TransitionTable Prefilled DecodeState V}
    (serving : scheduler.executor = (settings.executor build).front)
    (square : scheduler.model.Square vocabulary cells) {first : Front SlotBlocks}
    (reached : (settings.executor build).Reaches settings.freshCache first.inner)
    (idle : ∀ slot row, first.inner.isLive slot row = false) {requests : List Request}
    (accepted : ∀ request ∈ requests, ¬scheduler.Rejects request)
    (countable : ∀ request ∈ requests, settings.Countable request)
    (ample : settings.maxConcurrentDecodes * settings.samplesPerSlot * settings.largestShare requests ≤
      settings.numBlocks) :
    ∃ report engine, scheduler.run requests (fun _ => false) first = .ok report engine ∧ report.deferred = 0 ∧
      report.failed = [] ∧ report.interrupted = false ∧
      (report.completions.map (·.id)).Perm (requests.map (·.id)) ∧
      ∃ served : List Request, served.Perm requests ∧
        List.Forall₂ (fun completion request => completion.Answers settings.samplesPerSlot request)
          report.completions served := by
  have serves : scheduler.Serves settings build vocabulary cells := ⟨serving, valid, word, square⟩
  have short : ∀ request ∈ requests, settings.share request ≤ settings.largestShare requests :=
    fun request => EngineSettings.share_le_largest
  rw [Nat.mul_assoc] at ample
  have sound := EngineSettings.sound_of_reaches reached
  have steady := Scheduler.opening_steady serves sound idle requests
  obtain ⟨scene, moves, course⟩ := Scheduler.run_course serves sound idle requests fun _ => false
  obtain ⟨later, decided, queue, judged⟩ := Scheduler.eagers_keep serves (Scheduler.judged_eager serves) steady
    ⟨[], rfl, Scheduler.opening_judged requests first⟩ moves
  obtain ⟨-, deferred, finished⟩ := Scheduler.eagers_keep serves (Scheduler.undeferred_eager serves short ample) steady
    ⟨rfl, rfl⟩ moves
  obtain ⟨-, completed, turned, spoilt, accounts⟩ := Scheduler.eagers_keep serves
    (Scheduler.accounts_eager serves.hosts) steady ⟨[], [], [], Scheduler.opening_accounts requests first⟩ moves
  have hopeful (request : Request) (member : request ∈ requests) : ¬scheduler.Hopeless settings request :=
    Scheduler.hopeful_of_ample short ample serves.slots member (accepted request member)
  rcases course with ⟨stopped, -⟩ | ⟨nobody, empty, engine, done⟩ | ⟨busy, _, _, _, -, failed⟩
  · cases stopped
  · rw [empty, List.append_nil] at queue
    subst queue
    obtain ⟨failed, served⟩ := judged.spared hopeful
    rw [Board.seatedRequests_eq_nil nobody, List.map_nil, List.append_nil] at served
    exact ⟨scene.board.report, engine, done, deferred, failed, finished, served, completed,
      accounts.drained nobody empty failed, accounts.completed⟩
  · exact absurd failed (Scheduler.generate_ample serves short ample countable later busy)

def snugRequests : List Request := [⟨⟨1⟩, [0], 3⟩, ⟨⟨2⟩, [1, 0], 2⟩, ⟨⟨3⟩, [0, 1, 0], 1⟩]

theorem two_blocks_complete_all :
    (∀ request ∈ snugRequests, ¬alternatingScheduler.Rejects request) ∧
    EngineSettings.paired.largestShare snugRequests = 1 ∧ ∃ report engine,
      alternatingScheduler.run snugRequests (fun _ => false) (.cold EngineSettings.paired.freshCache) =
        .ok report engine ∧
      report.deferred = 0 ∧ report.failed = [] ∧ (report.completions.map (·.id)).Perm [⟨1⟩, ⟨2⟩, ⟨3⟩] ∧
      ∃ served : List Request, served.Perm snugRequests ∧
        List.Forall₂ (fun completion request => completion.Answers 1 request) report.completions served := by
  have square : alternatingScheduler.model.Square 2 ([0, 1, 1, 0].map Float32.toBits) := ⟨rfl, rfl⟩
  have serving : alternatingScheduler.executor = (EngineSettings.paired.executor fun _ => .ok ()).front := rfl
  have idle (slot row : Nat) : (Front.cold EngineSettings.paired.freshCache).inner.isLive slot row = false :=
    SlotBlocks.isLive_fresh ..
  have prefilled : ∀ request ∈ snugRequests,
      (match alternatingScheduler.prefillAfter 0 request (.cold EngineSettings.paired.freshCache) with
      | .ok .. => true
      | .error .. => false) = true := by decide +kernel
  have accepted : ∀ request ∈ snugRequests, ¬alternatingScheduler.Rejects request := by
    intro request member rejects
    obtain ⟨fault, after, failed⟩ := rejects 0 (.cold EngineSettings.paired.freshCache)
    have ok := prefilled request member
    simp [failed] at ok
  obtain ⟨report, engine, done, deferred, failed, -, completed⟩ :=
    ample_cache_completes_all rfl (by decide) serving square .start idle accepted (by decide) (by decide)
  exact ⟨accepted, by decide, report, engine, done, deferred, failed, completed⟩

end SlotServe
