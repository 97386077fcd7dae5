import SlotServe.Proofs.Serve.Verdicts

/-! The counters of a report. Each token that was generated belongs to a request in a slot or to a completion,
and each prefill that succeeded led to a request in a slot, a completion, a deferral or a failed insert. -/
namespace SlotServe

variable {V : Type} {settings : EngineSettings} {build : VocabularySource → Except Fault V} {vocabulary : Nat}

namespace Size

theorem total_of_const {counts : List Nat} {count : Nat} (same : ∀ entry ∈ counts, entry = count) :
    total counts = counts.length * count := by
  induction counts with
  | nil => exact (Nat.zero_mul _).symm
  | cons first rest ih =>
    have here : first = count := same first (List.mem_cons_self ..)
    have later := ih fun entry member => same entry (List.mem_cons_of_mem _ member)
    change first + total rest = (rest.length + 1) * count
    rw [here, later, Nat.succ_mul, Nat.add_comm]

end Size

structure Completion.Answers (completion : Completion) (samplesPerSlot : Nat) (request : Request) : Prop where
  id : completion.id = request.id
  promptLength : completion.promptLength = request.prompt.length
  width : completion.samples.length = samplesPerSlot
  long : ∀ stream ∈ completion.samples, stream.length = request.maxNewTokens

namespace Occupant

variable {occupant after : Occupant} {state : DecodeState} {cache : SlotBlocks} {slot : Nat}

theorem total_le_append (samples : List Transcript) (rows : List RowSample) :
    Size.total (samples.map (·.length)) ≤ Size.total ((append samples rows).map (·.length)) := by
  induction samples generalizing rows with
  | nil => exact Nat.le_refl _
  | cons sample rest ih =>
    cases rows with
    | nil => exact Nat.le_refl _
    | cons row rows => exact Nat.add_le_add (Nat.le_add_right _ _) (ih rows)

theorem absorb_grows {buffer : ResultBuffer} (ok : occupant.absorb buffer slot = .ok after) :
    occupant.numTokens ≤ after.numTokens := by
  obtain ⟨view, -, reading⟩ := except_links ok
  obtain ⟨read, -, done⟩ := except_links reading
  cases done
  exact total_le_append occupant.samples read

namespace Decodes

variable (decodes : occupant.Decodes settings vocabulary state cache slot) (positive : 0 < settings.samplesPerSlot)
  (done : occupant.isDone = true)

include decodes positive done

theorem emitted_of_done : occupant.emitted = max occupant.request.maxNewTokens 1 := by
  have enough := (isDone_iff (decodes.samples_ne_nil positive) decodes.even).mp done
  have begun := decodes.begun
  have within := decodes.within
  omega

theorem numTokens_of_done : occupant.numTokens = settings.samplesPerSlot * max occupant.request.maxNewTokens 1 := by
  have lengths : ∀ length ∈ occupant.samples.map (·.length), length = max occupant.request.maxNewTokens 1 := by
    intro length member
    obtain ⟨sample, present, rfl⟩ := List.mem_map.mp member
    exact (decodes.even sample present).trans (decodes.emitted_of_done positive done)
  rw [numTokens, Size.total_of_const lengths, List.length_map, decodes.width]

theorem answers_of_done : (occupant.completion slot).Answers settings.samplesPerSlot occupant.request := by
  have enough := (isDone_iff (decodes.samples_ne_nil positive) decodes.even).mp done
  refine ⟨rfl, rfl, (List.length_map ..).trans decodes.width, fun stream member => ?_⟩
  obtain ⟨sample, present, rfl⟩ := List.mem_map.mp member
  rw [List.length_take, Transcript.length_tokens, decodes.even sample present]
  exact Nat.min_eq_left enough

end Decodes

end Occupant

namespace Scheduler

theorem absorbAll_grows {buffer : ResultBuffer} {slots grown : List (Option Occupant)} {base : Nat}
    (ok : absorbAll buffer base slots = .ok grown) : seatedTokens slots ≤ seatedTokens grown := by
  induction slots generalizing base grown with
  | nil => exact Nat.zero_le _
  | cons first rest ih =>
    cases first with
    | none =>
      obtain ⟨others, absorbed, done⟩ := except_links ok
      cases done
      exact Nat.add_le_add_left (ih absorbed) 0
    | some occupant =>
      obtain ⟨next, absorbing, following⟩ := except_links ok
      obtain ⟨others, absorbed, done⟩ := except_links following
      cases done
      exact Nat.add_le_add (Occupant.absorb_grows absorbing) (ih absorbed)

theorem seatedTokens_idle {σ : Type} {board : Board σ} (idle : board.anyOccupied = false) :
    seatedTokens board.slots = 0 := by
  have empty := List.any_eq_false.mp idle
  have none : ∀ count ∈ board.slots.map fun slot => (slot.map Occupant.numTokens).getD 0, count = 0 := by
    intro count member
    obtain ⟨slot, present, rfl⟩ := List.mem_map.mp member
    cases slot with
    | none => rfl
    | some occupant => exact absurd rfl (empty _ present)
  rw [seatedTokens, Size.total_of_const none, Nat.mul_zero]

/-- Of the requests some are completed, some are in the slots, some failed at their insert, some failed
already at their prefill, and the others wait. The counters are those of this division. -/
structure Accounts (scheduler : Scheduler (Front SlotBlocks) TransitionTable Prefilled DecodeState V)
    (settings : EngineSettings) (requests served turned spoilt : List Request)
    (scene : Scene (Front SlotBlocks) DecodeState) : Prop where
  divided : (served ++ (seatedRequests scene.board.slots ++ (turned ++ (spoilt ++ scene.waiting)))).Perm requests
  completed : List.Forall₂ (fun completion request => completion.Answers settings.samplesPerSlot request)
    scene.board.report.completions served
  failed : scene.board.report.failed.Perm ((turned ++ spoilt).map (·.id))
  accepted : ∀ request ∈ turned, ¬scheduler.Rejects request
  rejected : ∀ request ∈ spoilt, scheduler.Rejects request
  tokens : scene.board.report.tokensGenerated =
    settings.samplesPerSlot * Size.total (served.map fun request => max request.maxNewTokens 1) +
      seatedTokens scene.board.slots
  prefills : scene.board.report.prefills =
    served.length + (seatedRequests scene.board.slots).length + turned.length + scene.board.report.deferred

variable {scheduler : Scheduler (Front SlotBlocks) TransitionTable Prefilled DecodeState V}
  {requests served turned spoilt waiting : List Request} {board : Board (Front SlotBlocks)} {request : Request}
  {occupant : Occupant} {slot tried tries : Nat} {state next : DecodeState} {engine : Front SlotBlocks}

namespace Accounts

theorem drained {scene : Scene (Front SlotBlocks) DecodeState}
    (accounts : scheduler.Accounts settings requests served turned spoilt scene)
    (nobody : scene.board.anyOccupied = false) (empty : scene.waiting = []) (none : scene.board.report.failed = []) :
    served.Perm requests := by
  have divided := accounts.divided
  have nothing : turned ++ spoilt = [] := by
    rw [← List.map_eq_nil_iff]
    exact (none ▸ accounts.failed).nil_eq.symm
  rwa [empty, Board.seatedRequests_eq_nil nobody, List.append_nil, nothing, List.append_nil, List.append_nil] at divided

theorem spoil (accounts : scheduler.Accounts settings requests served turned spoilt
      ⟨board, request :: waiting, state, tried⟩) (rejects : scheduler.Rejects request) :
    scheduler.Accounts settings requests served turned (spoilt ++ [request])
      ⟨⟨board.slots, { board.report with failed := board.report.failed ++ [request.id] }, engine⟩, waiting, next,
        tries⟩ := by
  refine ⟨?_, accounts.completed, ?_, accounts.accepted, ?_, accounts.tokens, accounts.prefills⟩
  · simpa using accounts.divided
  · simpa using accounts.failed.append_right [request.id]
  · intro other member
    rcases List.mem_append.mp member with before | here
    · exact accounts.rejected other before
    · obtain rfl := List.mem_singleton.mp here
      exact rejects

theorem turnAway (accounts : scheduler.Accounts settings requests served turned spoilt
      ⟨board, request :: waiting, state, tried⟩) (accepts : ¬scheduler.Rejects request) :
    scheduler.Accounts settings requests served (turned ++ [request]) spoilt
      ⟨⟨board.slots, { board.report with
        prefills := board.report.prefills + 1
        failed := board.report.failed ++ [request.id] }, engine⟩, waiting, next, tries⟩ := by
  refine ⟨?_, accounts.completed, ?_, ?_, accounts.rejected, accounts.tokens, ?_⟩
  · refine .trans (.append_left served (.append_left _ ?_)) accounts.divided
    rw [List.append_assoc, List.singleton_append]
    exact .append_left turned List.perm_middle.symm
  · have failed := (List.perm_append_singleton request.id board.report.failed).trans (accounts.failed.cons request.id)
    refine failed.trans ?_
    rw [List.map_append, List.map_append, List.map_append, List.append_assoc]
    exact List.perm_middle.symm
  · intro other member
    rcases List.mem_append.mp member with before | here
    · exact accounts.accepted other before
    · obtain rfl := List.mem_singleton.mp here
      exact accepts
  · have prefills := accounts.prefills
    dsimp only at prefills ⊢
    rw [List.length_append, List.length_singleton]
    omega

theorem takeIn (accounts : scheduler.Accounts settings requests served turned spoilt
      ⟨board, request :: waiting, state, tried⟩) (free : board.slots[slot]? = some none)
    (same : occupant.request = request) :
    scheduler.Accounts settings requests served turned spoilt
      ⟨⟨board.slots.set slot (some occupant), { board.report with
        prefills := board.report.prefills + 1
        tokensGenerated := board.report.tokensGenerated + occupant.numTokens }, engine⟩, waiting, next, tries⟩ := by
  have joined := seatedRequests_set free occupant
  rw [same] at joined
  refine ⟨?_, accounts.completed, accounts.failed, accounts.accepted, accounts.rejected, ?_, ?_⟩
  · refine .trans (.append_left served ((joined.append_right _).trans ?_)) accounts.divided
    rw [List.cons_append]
    refine .trans List.perm_middle.symm (.append_left _ ?_)
    rw [← List.append_assoc, ← List.append_assoc]
    exact List.perm_middle.symm
  · have tokens := accounts.tokens
    have counted : seatedTokens (board.slots.set slot (some occupant)) + 0 =
        seatedTokens board.slots + occupant.numTokens :=
      seatedTotal_set Occupant.numTokens free (some occupant)
    dsimp only at tokens ⊢
    omega
  · have prefills := accounts.prefills
    have length := joined.length_eq
    rw [List.length_cons] at length
    dsimp only at prefills ⊢
    omega

theorem retire (accounts : scheduler.Accounts settings requests served turned spoilt ⟨board, waiting, state, tried⟩)
    (taken : board.slots[slot]? = some (some occupant))
    (answers : (occupant.completion slot).Answers settings.samplesPerSlot occupant.request)
    (whole : occupant.numTokens = settings.samplesPerSlot * max occupant.request.maxNewTokens 1) :
    scheduler.Accounts settings requests (served ++ [occupant.request]) turned spoilt
      ⟨⟨board.slots.set slot none, { board.report with
        completions := board.report.completions ++ [occupant.completion slot] }, engine⟩, waiting, state, tried⟩ := by
  have vacated := seatedRequests_perm taken
  refine ⟨?_, List.rel_append accounts.completed (.cons answers .nil), accounts.failed, accounts.accepted,
    accounts.rejected, ?_, ?_⟩
  · rw [List.append_assoc, List.singleton_append, ← List.cons_append]
    exact ((vacated.symm.append_right _).append_left served).trans accounts.divided
  · have tokens := accounts.tokens
    have counted : seatedTokens (board.slots.set slot none) + occupant.numTokens = seatedTokens board.slots + 0 :=
      seatedTotal_set Occupant.numTokens taken none
    dsimp only at tokens ⊢
    rw [List.map_append, Size.total_append, Nat.mul_add]
    change _ = _ + settings.samplesPerSlot * max occupant.request.maxNewTokens 1 + _
    omega
  · have prefills := accounts.prefills
    have length := vacated.length_eq
    rw [List.length_cons] at length
    dsimp only at prefills ⊢
    rw [List.length_append, List.length_singleton]
    omega

end Accounts

/-- Every move accounts for what it counts. -/
theorem accounts_eager (hosts : scheduler.Hosts settings build vocabulary)
    {scene later : Scene (Front SlotBlocks) DecodeState} (steady : scene.Steady settings vocabulary requests)
    (eager : scheduler.Eager scene later)
    (accounts : ∃ served turned spoilt, scheduler.Accounts settings requests served turned spoilt scene) :
    ∃ served turned spoilt, scheduler.Accounts settings requests served turned spoilt later := by
  obtain ⟨served, turned, spoilt, accounts⟩ := accounts
  obtain ⟨move, -, -⟩ := eager
  cases move with
  | spoil free failed => exact ⟨served, turned, _, accounts.spoil (hosts.rejects failed)⟩
  | takeIn free prefilled inserted seated =>
    exact ⟨served, turned, spoilt, accounts.takeIn (Board.free_of_firstFree free) (takeUp_request seated)⟩
  | putOff free prefilled refused crowded =>
    obtain ⟨divided, completed, failed, accepted, rejected, tokens, prefills⟩ := accounts
    refine ⟨served, turned, spoilt, divided, completed, failed, accepted, rejected, tokens, ?_⟩
    exact congrArg (· + 1) prefills
  | turnAway free prefilled refused hopeless =>
    refine ⟨served, _, spoilt, accounts.turnAway fun rejects => ?_⟩
    obtain ⟨fault, after, never⟩ := rejects _ _
    cases never.symm.trans prefilled
  | retire seated done freed =>
    obtain ⟨-, decodes⟩ := steady.seated _ _ seated
    exact ⟨_, turned, spoilt, accounts.retire seated (decodes.answers_of_done hosts.positive done)
      (decodes.numTokens_of_done hosts.positive done)⟩
  | @step board waiting state tried next buffer engine copied slots generated host absorbed =>
    obtain ⟨divided, completed, failed, accepted, rejected, tokens, prefills⟩ := accounts
    have same : seatedRequests slots = seatedRequests board.slots :=
      congrArg (List.flatMap Option.toList) (absorbAll_requests absorbed)
    refine ⟨served, turned, spoilt, same ▸ divided, completed, failed, accepted, rejected, ?_, same ▸ prefills⟩
    have grown := absorbAll_grows absorbed
    dsimp only at tokens ⊢
    omega
  | interrupt =>
    obtain ⟨divided, completed, failed, accepted, rejected, tokens, prefills⟩ := accounts
    exact ⟨served, turned, spoilt, divided, completed, failed, accepted, rejected, tokens, prefills⟩

theorem opening_accounts (requests : List Request) (first : Front SlotBlocks) :
    scheduler.Accounts settings requests [] [] [] (scheduler.opening settings requests first) := by
  have nobody : (scheduler.opening settings requests first).board.anyOccupied = false := by
    simp [opening, start, Board.anyOccupied]
  have empty := Board.seatedRequests_eq_nil nobody
  have none (request : Request) : request ∉ [] := List.not_mem_nil
  refine ⟨?_, .nil, .refl _, fun request member => absurd member (none request),
    fun request member => absurd member (none request), ?_, ?_⟩
  · rw [empty]
    exact .refl _
  · rw [seatedTokens_idle nobody]
    rfl
  · rw [empty]
    rfl

end Scheduler

/-- A run over an idle executor ends, however the table scores and whether or not it is stopped, after no more
steps than tokens are owed past the first ones, and after no more admissions than requests and steps. When it is
not interrupted its counters are those of the requests that it completed, turned away at their insert or lost
at their prefill. -/
theorem run_ends_within_owed_steps (valid : settings.validate = .ok ()) (word : settings.blockSize < Size.limit)
    {scheduler : Scheduler (Front SlotBlocks) TransitionTable Prefilled DecodeState V}
    (serving : scheduler.executor = (settings.executor build).front) {first : Front SlotBlocks}
    (reached : (settings.executor build).Reaches settings.freshCache first.inner)
    (idle : ∀ slot row, first.inner.isLive slot row = false) (requests : List Request) (stop : Nat → Bool) :
    ∃ made last, made ≤ Size.total (requests.map fun request => max request.maxNewTokens 1 - 1) ∧
      last ≤ requests.length + made ∧
      scheduler.Rounds stop (scheduler.opening settings requests first) made last
        (scheduler.serve requests stop (scheduler.start first)) ∧
      ∀ report engine, scheduler.run requests stop first = .ok report engine →
        report.generateSteps = made ∧ report.deferred ≤ report.generateSteps ∧
        (report.interrupted = false → ∃ served turned spoilt : List Request,
          (served ++ (turned ++ spoilt)).Perm requests ∧
          List.Forall₂ (fun completion request => completion.Answers settings.samplesPerSlot request)
            report.completions served ∧
          report.failed.Perm ((turned ++ spoilt).map (·.id)) ∧
          (∀ request ∈ turned, ¬scheduler.Rejects request) ∧ (∀ request ∈ spoilt, scheduler.Rejects request) ∧
          report.tokensGenerated =
            settings.samplesPerSlot * Size.total (served.map fun request => max request.maxNewTokens 1) ∧
          report.prefills = report.completions.length + report.deferred + turned.length) := by
  have hosts : scheduler.Hosts settings build 0x100000000 := ⟨serving, valid, word, scheduler.model.bounded_words⟩
  have sound := EngineSettings.sound_of_reaches reached
  have steady := hosts.opening_steady sound idle requests
  obtain ⟨made, few, last, scene, rounds, moves, ending⟩ := hosts.serve_rounds sound idle requests stop
  obtain ⟨-, served, turned, spoilt, accounts⟩ := hosts.eagers_keep (Scheduler.accounts_eager hosts) steady
    ⟨[], [], [], Scheduler.opening_accounts requests first⟩ moves
  have owed : Scheduler.stepBound requests =
      Size.total (requests.map fun request => max request.maxNewTokens 1 - 1) := by
    refine congrArg Size.total (List.map_congr_left fun request _ => ?_)
    omega
  -- The counters are read off the last scene, where nothing waits and no slot is occupied.
  have tried : last ≤ 0 + requests.length + made := rounds.admissions
  rw [Nat.zero_add] at tried
  refine ⟨made, last, owed ▸ few, tried, rounds, fun report engine ended => ?_⟩
  obtain ⟨board, done, rfl, -⟩ := Scheduler.run_links ended
  rw [done] at rounds ending
  obtain ⟨steps, deferred⟩ := rounds.counts
  have steps : board.report.generateSteps = 0 + made := steps
  have deferred : board.report.deferred ≤ 0 + made := deferred
  rw [Nat.zero_add] at steps deferred
  refine ⟨steps, deferred.trans_eq steps.symm, fun finished => ?_⟩
  cases ending with
  | stopped flag => cases finished
  | drained nobody empty =>
    obtain ⟨divided, completed, failed, accepted, rejected, tokens, prefills⟩ := accounts
    rw [empty, List.append_nil, Board.seatedRequests_eq_nil nobody, List.nil_append] at divided
    rw [Board.seatedRequests_eq_nil nobody, List.length_nil, Nat.add_zero] at prefills
    rw [Scheduler.seatedTokens_idle nobody, Nat.add_zero] at tokens
    refine ⟨served, turned, spoilt, divided, completed, failed, accepted, rejected, tokens, ?_⟩
    rw [prefills, completed.length_eq, Nat.add_right_comm]

theorem unfit_run_ends_within_owed_steps :
    ∃ report engine, narrowScheduler.run unfitRequests (fun _ => false) (.cold EngineSettings.narrow.freshCache) =
        .ok report engine ∧
      report.generateSteps = 2 ∧ report.deferred = 2 ∧ report.tokensGenerated = 4 ∧ report.prefills = 5 ∧
      (∃ last ≤ 6, narrowScheduler.Rounds (fun _ => false)
        (narrowScheduler.opening EngineSettings.narrow unfitRequests (.cold EngineSettings.narrow.freshCache)) 2 last
        (narrowScheduler.serve unfitRequests (fun _ => false)
          (narrowScheduler.start (.cold EngineSettings.narrow.freshCache)))) ∧
      ∃ served turned spoilt : List Request, (served ++ (turned ++ spoilt)).Perm unfitRequests ∧
        List.Forall₂ (fun completion request => completion.Answers 1 request) report.completions served ∧
        (∀ request ∈ turned, ¬narrowScheduler.Rejects request) ∧
        (∀ request ∈ spoilt, narrowScheduler.Rejects request) ∧
        report.prefills = report.completions.length + report.deferred + turned.length := by
  have serving : narrowScheduler.executor = (EngineSettings.narrow.executor fun _ => .ok ()).front := rfl
  have idle (slot row : Nat) : (Front.cold EngineSettings.narrow.freshCache).inner.isLive slot row = false :=
    SlotBlocks.isLive_fresh ..
  obtain ⟨made, last, -, tried, rounds, counts⟩ := run_ends_within_owed_steps rfl (by decide) serving .start idle
    unfitRequests fun _ => false
  have ran : (match narrowScheduler.run unfitRequests (fun _ => false) (.cold EngineSettings.narrow.freshCache) with
      | .ok report _ => decide (report.generateSteps = 2 ∧ report.deferred = 2 ∧ report.tokensGenerated = 4 ∧
        report.prefills = 5 ∧ report.interrupted = false)
      | .error .. => false) = true := by decide +kernel
  cases ended : narrowScheduler.run unfitRequests (fun _ => false) (.cold EngineSettings.narrow.freshCache) with
  | error => simp [ended] at ran
  | ok report engine =>
    obtain ⟨steps, deferred, tokens, prefills, finished⟩ : report.generateSteps = 2 ∧ report.deferred = 2 ∧
        report.tokensGenerated = 4 ∧ report.prefills = 5 ∧ report.interrupted = false := by
      simpa [ended] using ran
    obtain ⟨exact, -, whole⟩ := counts report engine ended
    obtain ⟨served, turned, spoilt, divided, completed, -, accepted, rejected, -, counted⟩ := whole finished
    obtain rfl : 2 = made := steps.symm.trans exact
    exact ⟨report, engine, rfl, steps, deferred, tokens, prefills, ⟨last, tried, rounds⟩, served, turned, spoilt,
      divided, completed, accepted, rejected, counted⟩

end SlotServe
