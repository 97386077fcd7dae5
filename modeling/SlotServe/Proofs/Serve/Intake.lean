import SlotServe.Proofs.Engine.Vacancy
import SlotServe.Proofs.Engine.PromptContext
import SlotServe.Proofs.Prompt.Lengths
import SlotServe.Proofs.Serve.Admission

/-! What the prefill of a request hands on is fit for a slot. Its context is as long as the prompt, so that
memory can hold it, and its first tokens are always taken up. -/
namespace SlotServe

namespace Sampling.Candidates

theorem drawMany_length (candidates : Candidates) (count : Nat) (stream : Random.WordStream) :
    (candidates.drawMany count stream).1.length = count := by
  induction count generalizing stream with
  | zero => rfl
  | succ count ih => exact congrArg (· + 1) (ih _)

end Sampling.Candidates

namespace EngineSettings

variable {settings : EngineSettings} {table : TransitionTable} {request : PrefillRequest Prefilled}
  {start : Prefilled} {first : ResultBuffer}

section

variable {σ V : Type} {executor : Executor σ TransitionTable Prefilled DecodeState V} {engine after : σ}
  {tokens : List UInt32}

theorem prefillPieces_context (prefills : executor.PrefillsBy settings) {carried : Option (Carried Prefilled)}
    {stops : List Nat} (covered : Covered carried)
    (ok : executor.prefillPieces table request (.ofTokens tokens) carried stops engine = .ok (start, first) after) :
    stops.getLast? = some start.context.length ∧ start.context.length ≤ tokens.length := by
  -- The cache that a piece hands to the next one covers just the tokens up to its own end.
  induction stops generalizing carried engine with
  | nil => cases ok
  | cons stop rest ih =>
    obtain ⟨lead, _, cutting, calling⟩ := bind_links ok
    obtain ⟨narrowed, rfl⟩ := answer_success cutting
    obtain ⟨fits, rfl⟩ := Tensor.narrow_ofTokens (ofTensor_success narrowed)
    obtain ⟨⟨cache, buffer⟩, _, calling, going⟩ := bind_links calling
    rw [prefills.prefill] at calling
    obtain ⟨prefilled, rfl⟩ := answer_success calling
    obtain ⟨length, -⟩ := contextOf_length rfl covered (prefill_contextOf prefilled)
    have length : cache.context.length = stop := length
    cases rest with
    | nil =>
      cases going
      exact ⟨congrArg some length.symm, length.trans_le fits⟩
    | cons next rest =>
      rw [List.getLast?_cons_cons]
      refine ih ?_ going
      rintro _ ⟨⟩
      simp [Carried.length, Tensor.numCells, Tensor.ofTokens, volume, length, fits]

theorem prefillChunked_context (prefills : executor.PrefillsBy settings) (padded : request.padded = .ofTokens tokens)
    (fresh : request.carried = none) (ok : executor.prefillChunked table request engine = .ok (start, first) after) :
    start.context.length = request.trueLength ∧ request.trueLength ≤ tokens.length := by
  have covered : Covered request.carried := by
    rw [fresh]
    rintro _ ⟨⟩
  unfold Executor.prefillChunked at ok
  dsimp only at ok
  split at ok
  next =>
    rw [prefills.prefill] at ok
    obtain ⟨prefilled, -⟩ := answer_success ok
    exact contextOf_length padded covered (prefill_contextOf prefilled)
  next chunked =>
    have size : 0 < executor.limits.prefillChunkSize := by
      simp only [Bool.or_eq_true, decide_eq_true_eq, not_or] at chunked
      omega
    split at ok
    next => cases ok
    next =>
      obtain ⟨_, _, _, pieces⟩ := bind_links ok
      rw [padded, Tensor.flatten_ofTokens] at pieces
      obtain ⟨last, fits⟩ := prefillPieces_context prefills covered pieces
      have whole := chunkEnds_last size last
      exact ⟨whole, whole ▸ fits⟩

end

theorem prefill_singles (ok : settings.prefill table request = .ok (start, first)) :
    ∃ samples, samples.length = 1 ∧ first = .ofSingles samples 1 := by
  obtain ⟨_, _, -, -, handed⟩ := prefill_handOn ok
  obtain ⟨_, token, logProb, -, -, rfl⟩ := TransitionTable.handOn_success handed
  exact ⟨_, rfl, rfl⟩

theorem firstTokens_drawn {scores : Tensor} {vocabSize count : Nat} {seed : Option UInt64} {tokens : List UInt32}
    {logProbs : List Float32}
    (ok : settings.firstTokens scores vocabSize none seed count = .ok (tokens, logProbs)) : tokens.length = count := by
  obtain ⟨_, _, ok⟩ := except_links ok
  obtain ⟨row, _, ok⟩ := except_links ok
  obtain ⟨⟨draws, stream⟩, drawing, ok⟩ := except_links ok
  cases ok
  rw [List.length_map]
  unfold Sampling.Candidates.draws at drawing
  split at drawing
  next =>
    have same : (Sampling.Candidates.drawMany _ count _).1 = draws := congrArg Prod.fst (Except.ok.inj drawing)
    rw [← same, Sampling.Candidates.drawMany_length]
  next => cases drawing

def firstRows (tokens : List UInt32) (logProbs : List Float32) : List RowSample :=
  List.zipWith (fun token logProb => (RowSample.single token true 1).withLogProb [logProb]) tokens logProbs

theorem firstRows_pack {scores : Tensor} {vocabSize count : Nat} {seed : Option UInt64} {tokens : List UInt32}
    {logProbs : List Float32} (some : count ≠ 0)
    (drawn : settings.firstTokens scores vocabSize none seed count = .ok (tokens, logProbs)) :
    (firstRows tokens logProbs).length = count ∧
      ResultBuffer.ofSamples (firstRows tokens logProbs) count =
        .ok (.ofSingles (firstRows tokens logProbs) count) := by
  have size : (firstRows tokens logProbs).length = count := by
    rw [firstRows, List.length_zipWith, firstTokens_length drawn, Nat.min_self, firstTokens_drawn drawn]
  have single : ∀ sample ∈ firstRows tokens logProbs, sample.Single := by
    intro sample member
    obtain ⟨place, inside, rfl⟩ := List.mem_iff_getElem.mp member
    simp only [firstRows, List.getElem_zipWith]
    exact RowSample.single_scored ..
  exact ⟨size, ResultBuffer.ofSamples_singles single (List.ne_nil_of_length_pos (by omega)) (Nat.pos_of_ne_zero some)
    ⟨1, size.trans (Nat.mul_one count).symm⟩⟩

/-- The call answers with the first tokens that can be drawn from the scores after the prompt. -/
theorem prefillMany_of_drawn (plain : request.sampler = none) {count : Nat} (some : count ≠ 0)
    {context : List UInt32} {scores : Tensor} {seed : Option UInt64} {tokens : List UInt32} {logProbs : List Float32}
    (scored : settings.scoreRequest table request = .ok (context, scores))
    (drawn : settings.firstTokens scores table.vocabSize none seed count = .ok (tokens, logProbs)) :
    settings.prefillMany table request seed count =
      .ok (⟨context, tokens, logProbs, request.requestId⟩, .ofSingles (firstRows tokens logProbs) count) := by
  unfold prefillMany
  rw [if_neg some, scored, plain]
  change (settings.firstTokens scores table.vocabSize none seed count >>= _) = _
  rw [drawn]
  change (ResultBuffer.ofSamples (firstRows tokens logProbs) count >>= _) = _
  rw [(firstRows_pack some drawn).2]
  rfl

/-- Without a sampler the first tokens are drawn from the scores after the prompt. -/
theorem prefillMany_drawn {seed : Option UInt64} {count : Nat} (plain : request.sampler = none)
    (ok : settings.prefillMany table request seed count = .ok (start, first)) :
    count ≠ 0 ∧ ∃ scores, settings.scoreRequest table request = .ok (start.context, scores) ∧
      settings.firstTokens scores table.vocabSize none seed count = .ok (start.firstTokens, start.logProbs) ∧
      first = .ofSingles (firstRows start.firstTokens start.logProbs) count := by
  unfold prefillMany at ok
  split at ok
  next => cases ok
  next some =>
    obtain ⟨⟨context, scores⟩, scored, ok⟩ := except_links ok
    obtain ⟨⟨tokens, logProbs⟩, drawn, ok⟩ := except_links ok
    obtain ⟨buffer, packing, ok⟩ := except_links ok
    cases ok
    rw [plain] at drawn
    cases packing.symm.trans (firstRows_pack some drawn).2
    exact ⟨some, scores, scored, drawn, rfl⟩

end EngineSettings

theorem ResultBuffer.toHost_ok (buffer : ResultBuffer) : buffer.toHost = .ok buffer := by
  unfold toHost completeHostCopy startHostCopy
  exact if_neg (not_not_intro rfl)

theorem Occupant.absorb_singles (occupant : Occupant) {samples : List RowSample} {count slot : Nat}
    (positive : 0 < count)
    (inside : slot * count + count ≤ samples.length) :
    ∃ after, occupant.absorb (.ofSingles samples count) slot = .ok after := by
  obtain ⟨view, read, viewed, shown⟩ := ResultBuffer.read_ofSingles positive inside
  unfold absorb
  rw [viewed]
  change ∃ after, (view.samples >>= _) = .ok after
  rw [shown]
  exact ⟨_, rfl⟩

namespace Scheduler

variable {σ V : Type} {settings : EngineSettings} {scheduler : Scheduler σ TransitionTable Prefilled DecodeState V}
  {request : Request} {start : Prefilled} {first : ResultBuffer} {seed : UInt64} {engine after : σ}

theorem takeUp_singles (request : Request) {samples : List RowSample} {count : Nat} (positive : 0 < count)
    (size : samples.length = count) :
    ∃ occupant, scheduler.takeUp request (.ofSingles samples count) = .ok occupant := by
  unfold takeUp
  rw [ResultBuffer.toHost_ok]
  exact Occupant.absorb_singles _ positive (by omega)

/-- What a request hands on fits a slot, and its first tokens can be taken up. -/
theorem prefill_intake (prefills : scheduler.executor.PrefillsBy settings)
    (ok : scheduler.prefill request seed engine = .ok (start, first) after) :
    start.Fit ∧ start.context.length = request.prompt.length ∧
      ∃ occupant, scheduler.takeUp request first = .ok occupant := by
  obtain ⟨⟨tokens, length⟩, _, padding, prefilling⟩ := bind_links ok
  obtain ⟨padded, rfl⟩ := answer_success padding
  have exact : length = request.prompt.length := (padPrompt_success padded).2.1
  have room : tokens.length * 4 < 0x8000000000000000 := by
    simpa [Size.addressable] using padPrompt_addressable padded
  have fit (returns : settings.Returns start) (short : start.context.length ≤ tokens.length) : start.Fit := by
    refine ⟨returns.scored.2, ?_⟩
    simp only [Size.addressable, decide_eq_true_eq]
    omega
  dsimp only at prefilling
  split at prefilling
  next =>
    rw [prefills.prefillMany] at prefilling
    obtain ⟨many, -⟩ := answer_success prefilling
    obtain ⟨some, scores, -, drawn, rfl⟩ := EngineSettings.prefillMany_drawn rfl many
    have size := (EngineSettings.firstRows_pack some drawn).1
    obtain ⟨context, fits⟩ := EngineSettings.contextOf_length rfl (by rintro _ ⟨⟩)
      (EngineSettings.prefillMany_contextOf many)
    exact ⟨fit (.prefillMany many) (context.trans_le fits), context.trans exact,
      takeUp_singles request (Nat.pos_of_ne_zero some) size⟩
  next =>
    obtain ⟨context, fits⟩ := EngineSettings.prefillChunked_context prefills rfl rfl prefilling
    obtain ⟨piece, _, between, computed, -⟩ := Executor.prefillChunked_success rfl prefilling
    rw [prefills.prefill] at computed
    obtain ⟨computed, -⟩ := answer_success computed
    obtain ⟨samples, size, rfl⟩ := EngineSettings.prefill_singles computed
    exact ⟨fit (.prefill computed) (context.trans_le fits), context.trans exact,
      takeUp_singles request Nat.one_pos size⟩

end Scheduler

end SlotServe
