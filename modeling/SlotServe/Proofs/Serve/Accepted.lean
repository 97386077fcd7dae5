import SlotServe.Proofs.Engine.ChunkedPrompt
import SlotServe.Proofs.Serve.Warmed
import SlotServe.Serve.Simulation

/-! Prompts under settings that are accepted. With one sample for each slot every prompt of the length that
the settings ask for can be computed. With several, the prompt is never split, so that settings that count on
chunks are accepted although each of their prompts is too long. -/
namespace SlotServe

theorem TransitionTable.length_randomScores (count : Nat) (stream : Random.WordStream) :
    (TransitionTable.randomScores count stream).length = count := by
  induction count generalizing stream with
  | zero => rfl
  | succ count ih => exact congrArg (· + 1) (ih _)

/-- A table that is loaded holds the scores drawn for it, and they fit in memory. -/
theorem TransitionTable.random_eq {vocabulary : Nat} {seed : UInt64} {table : TransitionTable}
    (ok : TransitionTable.random vocabulary seed = .ok table) :
    table = ⟨⟨[vocabulary, vocabulary], .ofReals (randomScores (vocabulary * vocabulary) (.ofSeed seed))⟩⟩ ∧
      Size.addressable (vocabulary * vocabulary) 4 = true := by
  obtain ⟨count, counted, ok⟩ := except_links ok
  split at ok
  next => cases ok
  next fits =>
    cases ok
    have counted := orDefect_success counted
    unfold Size.mul? at counted
    split at counted
    next =>
      obtain rfl := Option.some.inj counted
      exact ⟨rfl, by simpa using fits⟩
    next => cases counted

theorem TransitionTable.random_square {vocabulary : Nat} {seed : UInt64} {table : TransitionTable}
    (ok : TransitionTable.random vocabulary seed = .ok table) : ∃ cells, table.Square vocabulary cells := by
  obtain ⟨rfl, -⟩ := random_eq ok
  exact ⟨_, rfl, (List.length_map _).trans (length_randomScores _ _)⟩

namespace EngineSettings

variable {settings : EngineSettings} {table : TransitionTable} {vocabulary : Nat} {cells : List UInt32}
  {request : PrefillRequest Prefilled} {last : UInt32}

theorem scoreRequest_coherent (coherent : request.Coherent) (ends : request.context.getLast? = some last) :
    settings.scoreRequest table request =
      if settings.maxPrefillLength < request.newTokens then
        .error (.promptTooLong request.newTokens settings.maxPrefillLength)
      else table.rowsOf [last] >>= fun scores => pure (request.context, scores) := by
  unfold scoreRequest
  rw [coherent.validate_eq, coherent.contextOf_eq]
  split
  next => rfl
  next => simp only [bind, Except.bind, ends]

theorem firstTokens_square (square : table.Square vocabulary cells) {scores : Tensor}
    (looked : table.rowsOf [last] = .ok scores) {count : Nat} (fits : Size.addressable count 8 = true)
    (vocabSize : Nat) (seed : Option UInt64) :
    ∃ drawn, settings.firstTokens scores vocabSize none seed count = .ok drawn := by
  rw [square.rowsOf_eq (square.rowsOf_inside looked)] at looked
  obtain rfl := Except.ok.inj looked
  unfold firstTokens Sampling.Candidates.draws
  simp only [fits, if_true]
  exact ⟨_, rfl⟩

theorem prefillMany_coherent (square : table.Square vocabulary cells) (coherent : request.Coherent)
    (plain : request.sampler = none) (inside : ∀ token ∈ request.prompt, token.toNat < vocabulary) {count : Nat}
    (some : count ≠ 0) (fits : Size.addressable count 8 = true) (seed : Option UInt64) :
    if settings.maxPrefillLength < request.newTokens then
      settings.prefillMany table request seed count =
        .error (.promptTooLong request.newTokens settings.maxPrefillLength)
    else ∃ found, settings.prefillMany table request seed count = .ok found := by
  obtain ⟨last, member, ends⟩ := coherent.last_context
  have scored : settings.scoreRequest table request = _ := scoreRequest_coherent coherent ends
  split
  next long =>
    rw [if_pos long] at scored
    unfold prefillMany
    rw [if_neg some, scored]
    rfl
  next short =>
    have looked := square.rowsOf_single (inside last member)
    obtain ⟨⟨tokens, logProbs⟩, drawn⟩ := settings.firstTokens_square square looked fits table.vocabSize seed
    rw [if_neg short, looked] at scored
    exact ⟨_, prefillMany_of_drawn plain some scored drawn⟩

/-- Chunks that fit the limit, or no need of them, let a prompt of any length through. -/
theorem prefillChunked_square {σ V : Type} {executor : Executor σ TransitionTable Prefilled DecodeState V}
    (prefills : executor.PrefillsBy settings) (square : table.Square vocabulary cells) (coherent : request.Coherent)
    (plain : request.sampler = none) (inside : ∀ token ∈ request.prompt, token.toNat < vocabulary)
    (positive : settings.useChunkedPrefill = true → 0 < settings.prefillChunkSize)
    (admits : settings.maxPrefillLength < request.newTokens →
      settings.useChunkedPrefill = true ∧ settings.prefillChunkSize ≤ settings.maxPrefillLength) (engine : σ) :
    ∃ found, executor.prefillChunked table request engine = .ok found engine := by
  obtain ⟨last, member, ends⟩ := coherent.last_context
  have matrix : table.Matrix vocabulary := by
    rw [TransitionTable.Matrix, square.vocabSize_eq, square.scores]
  have greedy (token : UInt32) (within : token ∈ request.prompt) (context : List UInt32) :
      ∃ answer, table.handOn none request.requestId context token = .ok answer := by
    have known := inside token within
    exact table.handOn_greedy matrix (by omega) (by rwa [square.vocabSize_eq]) _ context
  obtain ⟨found, handed⟩ := greedy last member request.context
  rw [← plain] at handed
  refine ⟨found, ?_⟩
  by_cases splits : settings.useChunkedPrefill = true ∧ settings.prefillChunkSize ≤ settings.maxPrefillLength
  · let direct := settings.executor fun _ => (.error .stalled : Except Fault V)
    have directly : direct.PrefillsBy settings := ⟨rfl, fun _ _ => rfl, fun _ _ _ _ => rfl⟩
    have mirrored := (directly.mirrored prefills fun _ state => state = engine).prefillChunked table request
    have same := mirrored settings.freshCache engine rfl
    rw [prefillChunked_eq _ splits.1 (positive splits.1) splits.2 coherent ends greedy, handed] at same
    generalize executor.prefillChunked table request engine = ended at same
    cases same with
    | ok _ unmoved => rw [unmoved]
  · -- The chunks are longer than a prefill may be, so that a prompt within the limit is one chunk.
    have whole : (!executor.limits.useChunkedPrefill || decide (executor.limits.prefillChunkSize = 0) ||
        decide (request.newTokens ≤ executor.limits.prefillChunkSize)) = true := by
      rw [prefills.limits]
      by_cases chunking : settings.useChunkedPrefill = true
      · have larger : ¬settings.prefillChunkSize ≤ settings.maxPrefillLength := fun fits => splits ⟨chunking, fits⟩
        have few : request.newTokens ≤ settings.prefillChunkSize := by
          by_contra many
          exact splits (admits (by omega))
        simp [limits, few]
      · simp [limits, chunking]
    unfold Executor.prefillChunked
    dsimp only
    rw [if_pos whole, prefills.prefill, prefill_coherent coherent ends, if_neg fun long => splits (admits long), handed]
    rfl

end EngineSettings

theorem padPrompt_ok {prompt : List UInt32} {buckets : List Nat}
    (fit : ∀ bucket ∈ buckets, Size.addressable bucket 4 = true) (some : prompt ≠ [])
    (addressable : Size.addressable prompt.length 4 = true) (pad : UInt32) :
    ∃ padding, padPrompt prompt pad buckets = .ok (prompt ++ padding, prompt.length) := by
  have room : Size.addressable (nearestLength buckets prompt.length) 4 = true := by
    rw [← checkLength_ok, checkLength_nearest fit, checkLength_ok.mpr addressable]
  exact ⟨_, (padPrompt_eq some pad buckets).trans (if_pos room)⟩

/-- A prompt that can be held in memory, in its padding. -/
theorem PrefillRequest.padding_coherent {prompt : List UInt32} (some : prompt ≠ []) (padding : List UInt32)
    (requestId : Option RequestId) :
    (PrefillRequest.padding prompt padding requestId : PrefillRequest Prefilled).Coherent where
  vector := rfl
  reaches := by
    change prompt.length ≤ (prompt ++ padding).length
    simp
  fits := nofun
  leads := nofun
  shorter := List.length_pos_of_ne_nil some

/-- What a request is prefilled with once its prompt is padded. -/
theorem Scheduler.prefill_padded {σ M P S V : Type} {scheduler : Scheduler σ M P S V} {request : Request}
    {padding : List UInt32} (padded : padPrompt request.prompt scheduler.padId scheduler.buckets =
      .ok (request.prompt ++ padding, request.prompt.length)) (seed : UInt64) :
    scheduler.prefill request seed =
      if 1 < scheduler.executor.limits.samplesPerSlot then
        scheduler.executor.prefillMany scheduler.model (.padding request.prompt padding (some request.id)) (some seed)
          scheduler.executor.limits.samplesPerSlot
      else scheduler.executor.prefillChunked scheduler.model (.padding request.prompt padding (some request.id)) := by
  unfold Scheduler.prefill
  rw [padded]
  rfl

theorem Random.WordStream.nextBelow_lt {width : Nat} (positive : 0 < width) (tries : Nat)
    (stream : Random.WordStream) : (stream.nextBelow width tries).1 < width := by
  induction tries generalizing stream with
  | zero => exact positive
  | succ tries ih =>
    unfold nextBelow
    dsimp only
    split
    · have word := stream.next.1.toNat_lt
      exact Nat.div_lt_of_lt_mul (Nat.mul_lt_mul_of_pos_right word positive)
    · exact ih _

theorem randomPrompt_success {top length : Nat} {stream after : Random.WordStream} {prompt : List UInt32}
    (ok : randomPrompt top length stream = .ok (prompt, after)) :
    prompt.length = length ∧ ∀ token ∈ prompt, token.toNat < top := by
  induction length generalizing stream prompt with
  | zero =>
    cases ok
    exact ⟨rfl, nofun⟩
  | succ length ih =>
    unfold randomPrompt at ok
    split at ok
    next => cases ok
    next wide =>
      have some : 0 < top - 1 := by omega
      have below := stream.nextBelow_lt some Random.WordStream.maxTries
      generalize stream.nextBelow (top - 1) Random.WordStream.maxTries = offset at ok below
      obtain ⟨⟨rest, between⟩, drawn, ok⟩ := except_links ok
      cases ok
      obtain ⟨size, inside⟩ := ih drawn
      refine ⟨congrArg (· + 1) size, fun token member => ?_⟩
      rcases List.mem_cons.mp member with rfl | later
      · have cut := Nat.mod_le (1 + offset.1) (2 ^ 32)
        rw [UInt32.toNat_ofNat']
        omega
      · exact inside token later

theorem randomRequests_success {workload : WorkloadSettings} {top : Nat} {ids : List RequestId}
    {stream : Random.WordStream} {requests : List Request}
    (ok : randomRequests workload top ids stream = .ok requests) :
    ∀ request ∈ requests, ids ≠ [] ∧ request.prompt.length = workload.promptLength ∧
      ∀ token ∈ request.prompt, token.toNat < top := by
  induction ids generalizing stream requests with
  | nil =>
    cases ok
    nofun
  | cons id rest ih =>
    obtain ⟨⟨prompt, between⟩, drawn, ok⟩ := except_links ok
    obtain ⟨others, following, ok⟩ := except_links ok
    cases ok
    intro request member
    rcases List.mem_cons.mp member with rfl | later
    · exact ⟨List.cons_ne_nil _ _, randomPrompt_success drawn⟩
    · exact ⟨List.cons_ne_nil _ _, (ih following request later).2⟩

namespace RunSettings

structure Poses (settings : RunSettings) (request : Request) : Prop where
  length : request.prompt.length = settings.workload.promptLength
  inside : ∀ token ∈ request.prompt, token.toNat < settings.engine.vocabSize
  addressable : Size.addressable request.prompt.length 4 = true

def Overlong (settings : RunSettings) : Prop :=
  1 < settings.engine.samplesPerSlot ∧ settings.engine.maxPrefillLength < settings.workload.promptLength

instance (settings : RunSettings) : Decidable settings.Overlong :=
  inferInstanceAs (Decidable (_ ∧ _))

def scheduler (settings : RunSettings) (front : Front SlotBlocks) (model : TransitionTable) :
    Scheduler (Front SlotBlocks) TransitionTable Prefilled DecodeState Unit :=
  front.scheduler settings.engine (fun _ => .ok ()) model (.ofNat settings.workload.padId) settings.engine.seed

variable {settings : RunSettings}

/-- Accepted settings have sound ones for the executor, ask for some tokens, and count on chunks where the
prompt is longer than a prefill may be. -/
theorem rules_of_valid (valid : settings.validate = .ok ()) :
    settings.engine.brokenRule = none ∧ settings.workload.promptLength ≠ 0 ∧
      (settings.engine.maxPrefillLength < settings.workload.promptLength → settings.canSplit = true) := by
  have sound : settings.brokenRule = none := by
    unfold validate at valid
    split at valid
    next => cases valid
    next sound => exact sound
  unfold brokenRule at sound
  split at sound
  next => cases sound
  next engine =>
    refine ⟨engine, ?_⟩
    dsimp only at sound
    split_ifs at sound with tokens length long
    refine ⟨length, fun longer => ?_⟩
    simpa [longer] using long

theorem chunk_of_rules (sound : settings.engine.brokenRule = none)
    (chunking : settings.engine.useChunkedPrefill = true) : 0 < settings.engine.prefillChunkSize := by
  unfold EngineSettings.brokenRule at sound
  split at sound
  next => cases sound
  next =>
    split_ifs at sound with chunk
    simp only [chunking, Bool.true_and, decide_eq_true_eq] at chunk
    omega

theorem warmed_primed {front : Front SlotBlocks} {model : TransitionTable} (warmed : settings.warmed model = .ok front) :
    settings.engine.Primed front := by
  have cold : settings.engine.Primed (.cold settings.engine.freshCache) := EngineSettings.cold_primed
  unfold RunSettings.warmed at warmed
  dsimp only at warmed
  split at warmed
  next =>
    have primed : settings.engine.Primed
        (left (settings.executor.warmUp model {} (.cold settings.engine.freshCache))) :=
      EngineSettings.primed_warmUp model {} _ cold
    split at warmed
    next stats after done =>
      rw [done] at primed
      split at warmed
      next =>
        cases warmed
        exact primed
      next => cases warmed
    next => cases warmed
  next =>
    cases warmed
    exact cold

theorem samples_addressable (sound : settings.engine.brokenRule = none)
    (ready : settings.engine.checkMemory = .ok ()) : Size.addressable settings.engine.samplesPerSlot 8 = true := by
  have valid : settings.engine.validate = .ok () := by
    unfold EngineSettings.validate
    rw [sound]
  have member : ("max_concurrent_decodes", settings.engine.maxConcurrentDecodes) ∈ settings.engine.sizes := by
    simp [EngineSettings.sizes]
  have slots := EngineSettings.size_of_valid valid member
  unfold EngineSettings.checkMemory at ready
  split at ready
  next fits =>
    simp only [SlotBlocks.fitsMemory, Size.addressable, Bool.and_eq_true, Bool.or_eq_true, decide_eq_true_eq] at fits ⊢
    omega
  next => cases ready

/-- A prompt of the workload can be padded, and is computed from its padding as it is. -/
theorem Poses.padded {request : Request} (poses : settings.Poses request) (length : settings.workload.promptLength ≠ 0)
    {buckets : List Nat} (fit : ∀ bucket ∈ buckets, Size.addressable bucket 4 = true) (pad : UInt32) :
    ∃ padding, padPrompt request.prompt pad buckets = .ok (request.prompt ++ padding, request.prompt.length) ∧
      let asked : PrefillRequest Prefilled := .padding request.prompt padding (some request.id)
      asked.Coherent ∧ (∀ token ∈ asked.prompt, token.toNat < settings.engine.vocabSize) ∧
        asked.newTokens = settings.workload.promptLength := by
  have some : request.prompt ≠ [] := by
    rw [List.ne_nil_iff_length_pos, poses.length]
    omega
  obtain ⟨padding, padded⟩ := padPrompt_ok fit some poses.addressable pad
  refine ⟨padding, padded, ?_⟩
  intro asked
  refine ⟨PrefillRequest.padding_coherent some padding _, ?_, poses.length⟩
  have prompt : asked.prompt = request.prompt := List.take_left
  rw [prompt]
  exact poses.inside

/-- The settings decide, and not the prompt. -/
theorem prefill_poses (valid : settings.validate = .ok ()) (ready : settings.engine.checkMemory = .ok ())
    {model : TransitionTable} {cells : List UInt32} (square : model.Square settings.engine.vocabSize cells)
    {front : Front SlotBlocks} (primed : settings.engine.Primed front) {request : Request}
    (poses : settings.Poses request) (seed : UInt64) (state : Front SlotBlocks) :
    if settings.Overlong then
      (settings.scheduler front model).prefill request seed state =
        .error (.promptTooLong settings.workload.promptLength settings.engine.maxPrefillLength) state
    else ∃ found, (settings.scheduler front model).prefill request seed state = .ok found state := by
  obtain ⟨sound, length, splits⟩ := rules_of_valid valid
  obtain ⟨padding, padded, coherent, inside, tokens⟩ :=
    poses.padded length primed.buckets (settings.scheduler front model).padId
  have prefills : (settings.scheduler front model).executor.PrefillsBy settings.engine :=
    Executor.prefillsBy_front settings.engine _
  have prefilled := Scheduler.prefill_padded padded seed
  rw [prefills.limits, prefills.prefillMany] at prefilled
  rw [prefilled]
  -- Several samples are drawn by one call, which is never split.
  by_cases several : 1 < settings.engine.samplesPerSlot
  · have called := settings.engine.prefillMany_coherent square coherent rfl inside (Nat.ne_of_gt (by omega))
      (samples_addressable sound ready) (some seed)
    rw [tokens] at called
    rw [show settings.engine.limits.samplesPerSlot = settings.engine.samplesPerSlot from rfl, if_pos several]
    by_cases long : settings.engine.maxPrefillLength < settings.workload.promptLength
    · rw [if_pos long] at called
      rw [if_pos ⟨several, long⟩]
      change answer (settings.engine.prefillMany model _ _ _) state = _
      rw [called]
      rfl
    · rw [if_neg long] at called
      obtain ⟨found, called⟩ := called
      rw [if_neg fun overlong => long overlong.2]
      change ∃ found, answer (settings.engine.prefillMany model _ _ _) state = .ok found state
      rw [called]
      exact ⟨found, rfl⟩
  · have admits : settings.engine.maxPrefillLength < settings.workload.promptLength →
        settings.engine.useChunkedPrefill = true ∧
          settings.engine.prefillChunkSize ≤ settings.engine.maxPrefillLength := by
      intro long
      simpa [canSplit] using splits long
    rw [← tokens] at admits
    rw [show settings.engine.limits.samplesPerSlot = settings.engine.samplesPerSlot from rfl, if_neg several,
      if_neg fun overlong => several overlong.1]
    exact EngineSettings.prefillChunked_square prefills square coherent rfl inside (chunk_of_rules sound) admits state

theorem poses_synthetic (wide : 2 ≤ settings.engine.vocabSize) {idOf : Nat → RequestId} {requests : List Request}
    (ok : syntheticRequests settings.workload settings.engine.vocabSize settings.engine.seed idOf = .ok requests) :
    ∀ request ∈ requests, settings.Poses request := by
  unfold syntheticRequests at ok
  split at ok
  next fits =>
    intro request member
    obtain ⟨some, length, inside⟩ := randomRequests_success ok request member
    have top := Nat.mod_le (max settings.engine.vocabSize 2) 0x100000000
    rw [Nat.max_eq_left wide] at top inside
    refine ⟨length, fun token within => (inside token within).trans_le top, ?_⟩
    have requested : settings.workload.numRequests ≠ 0 := fun none => some (by rw [none]; rfl)
    simp only [WorkloadSettings.fitsMemory, Bool.and_eq_true, Bool.or_eq_true, decide_eq_true_eq] at fits
    rw [length]
    exact fits.2.resolve_left requested
  next => cases ok

end RunSettings

/-- Under accepted settings, over the executor's own table and warmed up or not, every prompt of the workload can
be prefilled, or none can: with several samples for each slot, all prompts fail that are longer than a prefill
may be, although the settings count on chunks for them. Synthetic requests are such prompts. -/
theorem accepted_workload_prefills {settings : RunSettings} (valid : settings.validate = .ok ())
    (ready : settings.engine.checkMemory = .ok ()) {model : TransitionTable}
    (loaded : TransitionTable.random settings.engine.vocabSize settings.engine.seed = .ok model)
    {front : Front SlotBlocks} (warmed : settings.warmed model = .ok front) :
    (∀ request, settings.Poses request → ∀ seed state,
      if 1 < settings.engine.samplesPerSlot ∧ settings.engine.maxPrefillLength < settings.workload.promptLength then
        (settings.scheduler front model).prefill request seed state =
          .error (.promptTooLong settings.workload.promptLength settings.engine.maxPrefillLength) state
      else ∃ found, (settings.scheduler front model).prefill request seed state = .ok found state) ∧
    (2 ≤ settings.engine.vocabSize → ∀ idOf requests,
      syntheticRequests settings.workload settings.engine.vocabSize settings.engine.seed idOf = .ok requests →
        ∀ request ∈ requests, settings.Poses request) := by
  obtain ⟨cells, square⟩ := TransitionTable.random_square loaded
  refine ⟨fun request poses seed state => ?_, fun wide idOf requests ok => settings.poses_synthetic wide ok⟩
  exact RunSettings.prefill_poses valid ready square (RunSettings.warmed_primed warmed) poses seed state

def RunSettings.splitting (samples : Nat) : RunSettings :=
  { engine :=
      { maxConcurrentDecodes := 1, samplesPerSlot := samples, maxPrefillLength := 4, useChunkedPrefill := true,
        prefillChunkSize := 2, vocabSize := 2, blockSize := 4, numBlocks := 8 }
    workload := { numRequests := 1, maxNewTokens := 2, promptLength := 6, warmUp := false } }

theorem RunSettings.splitting_poses (samples : Nat) : (splitting samples).Poses ⟨⟨1⟩, [1, 0, 1, 1, 0, 1], 2⟩ :=
  ⟨rfl, fun token member => by
    have known : ∀ token ∈ [1, 0, 1, 1, 0, 1], UInt32.toNat token < 2 :=
      List.forall_mem_iff_forall_getElem.mpr (by decide)
    exact known token member, by decide⟩

/-- With one sample for each slot the prompt is computed in its chunks. -/
theorem splitting_prompt_prefills :
    let settings := RunSettings.splitting 1
    settings.validate = .ok () ∧ settings.engine.checkMemory = .ok () ∧
      ∃ model front, TransitionTable.random settings.engine.vocabSize settings.engine.seed = .ok model ∧
        settings.warmed model = .ok front ∧
          ∃ found, (settings.scheduler front model).prefill ⟨⟨1⟩, [1, 0, 1, 1, 0, 1], 2⟩ 0 front = .ok found front := by
  intro settings
  have valid : settings.validate = .ok () := by decide +kernel
  have ready : settings.engine.checkMemory = .ok () := by decide
  obtain ⟨model, loaded⟩ : ∃ model, TransitionTable.random settings.engine.vocabSize settings.engine.seed = .ok model :=
    ⟨_, rfl⟩
  have warmed : settings.warmed model = .ok (.cold settings.engine.freshCache) := rfl
  obtain ⟨prefills, -⟩ := accepted_workload_prefills valid ready loaded warmed
  exact ⟨valid, ready, model, _, loaded, warmed, prefills _ (RunSettings.splitting_poses 1) 0 _⟩

/-- With two samples for each slot the settings are accepted, and the synthetic request fails. -/
theorem splitting_prompt_too_long :
    let settings := RunSettings.splitting 2
    settings.validate = .ok () ∧ 2 ≤ settings.engine.vocabSize ∧
      (∃ model front, TransitionTable.random settings.engine.vocabSize settings.engine.seed = .ok model ∧
        settings.warmed model = .ok front ∧ settings.Poses ⟨⟨1⟩, [1, 0, 1, 1, 0, 1], 2⟩ ∧
          (settings.scheduler front model).prefill ⟨⟨1⟩, [1, 0, 1, 1, 0, 1], 2⟩ 0 front =
            .error (.promptTooLong 6 4) front) ∧
      ∃ report, settings.simulate RequestId.mk = .ok report ∧ report.failed = [⟨0⟩] ∧ report.completions = [] := by
  intro settings
  have failing : (match settings.simulate RequestId.mk with
      | .ok report => decide (report.failed = [⟨0⟩] ∧ report.completions = [])
      | .error _ => false) = true := by decide +kernel
  refine ⟨by decide +kernel, by decide, ⟨_, _, rfl, rfl, RunSettings.splitting_poses 2, rfl⟩, ?_⟩
  cases simulated : settings.simulate RequestId.mk with
  | ok report =>
    rw [simulated] at failing
    exact ⟨report, rfl, of_decide_eq_true failing⟩
  | error fault =>
    rw [simulated] at failing
    cases failing

end SlotServe
