import SlotServe.Proofs.Sampling.Draw
import SlotServe.Proofs.Serve.Intake

/-! Whether the prefill of a request succeeds is settled by the request. Neither the seed nor the state of
the executor has a say in it, only in which first tokens are drawn, and these are in the vocabulary. -/
namespace SlotServe

structure TransitionTable.Bounded (table : TransitionTable) (vocabulary : Nat) : Prop where
  picked : ∀ {token : UInt32}, table.Picks none token → token.toNat < vocabulary
  drawn : ∀ {settings : EngineSettings} {last : UInt32} {scores : Tensor} {vocabSize count : Nat}
    {seed : Option UInt64} {tokens : List UInt32} {logProbs : List Float32}, table.rowsOf [last] = .ok scores →
    settings.firstTokens scores vocabSize none seed count = .ok (tokens, logProbs) →
    ∀ token ∈ tokens, token.toNat < vocabulary

theorem TransitionTable.bounded_words (table : TransitionTable) : table.Bounded 0x100000000 :=
  ⟨fun _ => UInt32.toNat_lt _, fun _ _ token _ => UInt32.toNat_lt token⟩

structure Prefilled.Suits (settings : EngineSettings) (vocabulary : Nat) (request : Request) (start : Prefilled) :
    Prop where
  fit : start.Fit
  fits : settings.FitsSlot start
  length : start.context.length = request.prompt.length
  known : ∀ token ∈ start.firstTokens, token.toNat < vocabulary

namespace EngineSettings

variable {settings : EngineSettings} {table : TransitionTable} {request : PrefillRequest Prefilled}
  {start : Prefilled} {first : ResultBuffer} {scores : Tensor} {vocabSize count : Nat}
  {seed : Option UInt64} {tokens : List UInt32} {logProbs : List Float32}

theorem firstTokens_reseed (ok : settings.firstTokens scores vocabSize none seed count = .ok (tokens, logProbs))
    (other : Option UInt64) :
    ∃ found, settings.firstTokens scores vocabSize none other count = .ok found := by
  obtain ⟨squeezed, squeezing, ok⟩ := except_links ok
  obtain ⟨row, reading, ok⟩ := except_links ok
  obtain ⟨_, drawing, -⟩ := except_links ok
  unfold firstTokens
  dsimp only
  rw [squeezing]
  change ∃ found, (ofTensor squeezed.vectorF32 >>= _) = .ok found
  rw [reading]
  unfold Sampling.Candidates.draws at drawing ⊢
  split at drawing
  next addressable =>
    simp only [addressable, if_true]
    exact ⟨_, rfl⟩
  next => cases drawing

theorem prefillMany_reseed (plain : request.sampler = none)
    (ok : settings.prefillMany table request seed count = .ok (start, first)) (other : Option UInt64) :
    ∃ found, settings.prefillMany table request other count = .ok found := by
  obtain ⟨some, scores, scored, drawn, -⟩ := prefillMany_drawn plain ok
  obtain ⟨⟨tokens, logProbs⟩, redrawn⟩ := firstTokens_reseed drawn other
  exact ⟨_, prefillMany_of_drawn plain some scored redrawn⟩

theorem firstTokens_lt {vocabulary : Nat} {cells : List UInt32} (square : table.Square vocabulary cells)
    {last : UInt32} (looked : table.rowsOf [last] = .ok scores)
    (ok : settings.firstTokens scores vocabSize none seed count = .ok (tokens, logProbs)) :
    ∀ token ∈ tokens, token.toNat < vocabulary := by
  have inside := square.rowsOf_inside looked
  have width := square.ofWidth inside (scoreRow vocabulary cells last) (by simp)
  have positive := inside last (by simp)
  rw [square.rowsOf_eq inside] at looked
  obtain rfl := Except.ok.inj looked
  obtain ⟨squeezed, squeezing, ok⟩ := except_links ok
  obtain ⟨row, reading, ok⟩ := except_links ok
  obtain ⟨⟨draws, _⟩, drawing, ok⟩ := except_links ok
  cases ok
  cases ofTensor_success squeezing
  obtain rfl : scoreRow vocabulary cells last = row := by
    simpa [Tensor.vectorF32] using ofTensor_success reading
  unfold Sampling.Candidates.draws at drawing
  split at drawing
  next =>
    obtain rfl : (Sampling.Candidates.drawMany _ count _).1 = draws := congrArg Prod.fst (Except.ok.inj drawing)
    have some : (Sampling.Candidates.ofRow ((scoreRow vocabulary cells last).map Float32.ofBits)
        (settings.sampling (some (seed.getD settings.seed)))).weights ≠ [] := by
      rw [List.ne_nil_iff_length_pos, Sampling.Candidates.length_weights, List.length_map, width]
      omega
    intro token member
    obtain ⟨draw, drawn, rfl⟩ := List.mem_map.mp member
    have within := Sampling.Candidates.drawMany_lt some _ _ draw drawn
    rwa [Sampling.Candidates.length_weights, List.length_map, width] at within
  next => cases drawing

end EngineSettings

theorem TransitionTable.Square.bounded {table : TransitionTable} {vocabulary : Nat} {cells : List UInt32}
    (square : table.Square vocabulary cells) : table.Bounded vocabulary := by
  refine ⟨?_, EngineSettings.firstTokens_lt square⟩
  rintro token ⟨lasts, scores, picked, looked, picking, member⟩
  obtain ⟨last, -, follows⟩ := forall₂_opposite (square.pickTokens_successor looked picking).flip member
  exact square.successor_lt follows

namespace Scheduler

variable {σ V : Type} {settings : EngineSettings} {scheduler : Scheduler σ TransitionTable Prefilled DecodeState V}
  {request : Request} {start : Prefilled} {first : ResultBuffer} {seed : UInt64} {engine after : σ}

/-- The prefill of the request fails, whenever it is tried. -/
def Rejects (scheduler : Scheduler σ TransitionTable Prefilled DecodeState V) (request : Request) : Prop :=
  ∀ tried engine, ∃ fault after, scheduler.prefillAfter tried request engine = .error fault after

theorem prefill_whenever (prefills : scheduler.executor.PrefillsBy settings)
    (ok : scheduler.prefill request seed engine = .ok (start, first) after) (other : UInt64) (state : σ) :
    ∃ found, scheduler.prefill request other state = .ok found state := by
  have here : scheduler.prefill request seed state = .ok (start, first) state :=
    prefill_anywhere prefills prefills ok state
  obtain ⟨⟨tokens, length⟩, _, padding, prefilling⟩ := bind_links here
  obtain ⟨-, rfl⟩ := answer_success padding
  unfold prefill
  rw [bind_ok _ padding]
  dsimp only at prefilling ⊢
  split at prefilling
  next several =>
    rw [prefills.prefillMany] at prefilling
    obtain ⟨many, -⟩ := answer_success prefilling
    obtain ⟨found, again⟩ := EngineSettings.prefillMany_reseed rfl many (some other)
    rw [if_pos several, prefills.prefillMany, again]
    exact ⟨found, rfl⟩
  next single =>
    rw [if_neg single]
    exact ⟨_, prefilling⟩

/-- What a prefill that succeeds hands on suits a slot, and the request is taken up with one token for each
of its samples. -/
theorem prefill_suits (prefills : scheduler.executor.PrefillsBy settings) (positive : 0 < settings.samplesPerSlot)
    {vocabulary : Nat} (bounded : scheduler.model.Bounded vocabulary)
    (ok : scheduler.prefill request seed engine = .ok (start, first) after) :
    start.Suits settings vocabulary request ∧ ∃ occupant, scheduler.takeUp request first = .ok occupant ∧
      occupant.request = request ∧ occupant.samples.length = settings.samplesPerSlot ∧
      ∀ sample ∈ occupant.samples, sample.length = 1 := by
  obtain ⟨fit, length, occupant, taken⟩ := prefill_intake prefills ok
  obtain ⟨shows, greedy⟩ := prefill_shows prefills positive ok
  have samples : scheduler.executor.limits.samplesPerSlot = settings.samplesPerSlot := by
    rw [prefills.limits]
    rfl
  obtain ⟨fits, known⟩ : settings.FitsSlot start ∧ ∀ token ∈ start.firstTokens, token.toNat < vocabulary := by
    obtain ⟨_, _, -, prefilling⟩ := bind_links ok
    dsimp only at prefilling
    split at prefilling
    next several =>
      rw [prefills.prefillMany] at prefilling
      obtain ⟨many, -⟩ := answer_success prefilling
      obtain ⟨-, scores, scored, drawn, -⟩ := EngineSettings.prefillMany_drawn rfl many
      obtain ⟨-, last, -, looked⟩ := EngineSettings.scoreRequest_context scored
      exact ⟨.inr ((EngineSettings.firstTokens_drawn drawn).trans samples), bounded.drawn looked drawn⟩
    next single =>
      obtain ⟨last, scores, next, -, looked, picked, only⟩ := greedy (by omega)
      have picks : scheduler.model.Picks none next := ⟨[last], scores, [next], looked, picked, by simp⟩
      rw [only]
      exact ⟨.inl (by rw [only]; rfl), by simpa using bounded.picked picks⟩
  obtain ⟨same, count, tokens⟩ := takeUp_success (samples ▸ shows) (samples ▸ fits) taken
  refine ⟨⟨fit, fits, length, known⟩, occupant, taken, same, ?_, fun sample member => ?_⟩
  · have sizes := congrArg List.length tokens
    rw [List.length_map, List.length_map] at sizes
    rw [sizes, count, samples]
  · have shown : sample.tokens ∈ start.firstTokens.map fun token => [token] := by
      rw [← tokens]
      exact List.mem_map_of_mem member
    obtain ⟨token, -, only⟩ := List.mem_map.mp shown
    rw [← Transcript.length_tokens, ← only]
    rfl

end Scheduler

end SlotServe
