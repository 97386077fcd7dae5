import SlotServe.Proofs.Engine.PromptContext

/-! The padding of a prompt is never read. Prefill answers the same for two token vectors that show the same
ids up to the true length: at once, drawing several first tokens or in chunks, and also where it fails. -/
namespace SlotServe

variable {σ M P S V : Type}

namespace Carried

def seen (carried : Carried P) : P × Nat × List UInt32 := (carried.cache, carried.length, carried.tokenIds)

theorem seen_eq {first second : Carried P} (same : first.seen = second.seen) :
    first.cache = second.cache ∧ first.length = second.length ∧ first.tokenIds = second.tokenIds := by
  simpa [seen] using same

end Carried

namespace PrefillRequest

/-- The requests ask for the same prompt over caches that look the same. Their padding may differ, in length
too, and so may the types of the ids. -/
structure Alike (request other : PrefillRequest P) : Prop where
  trueLength : request.trueLength = other.trueLength
  sampler : request.sampler = other.sampler
  requestId : request.requestId = other.requestId
  carried : request.carried.map Carried.seen = other.carried.map Carried.seen
  vector : request.padded.shape = [request.padded.tokens.length]
  otherVector : other.padded.shape = [other.padded.tokens.length]
  reaches : request.trueLength ≤ request.padded.tokens.length
  otherReaches : other.trueLength ≤ other.padded.tokens.length
  prompt : request.prompt = other.prompt

namespace Alike

variable {request other : PrefillRequest P} (alike : request.Alike other)

include alike

theorem carried_cases : (request.carried = none ∧ other.carried = none) ∨
    ∃ first second, request.carried = some first ∧ other.carried = some second ∧ first.seen = second.seen := by
  have same := alike.carried
  cases mine : request.carried with
  | none => exact .inl ⟨rfl, by simpa [mine] using same.symm⟩
  | some first =>
    rw [mine] at same
    obtain ⟨second, yours, seen⟩ := Option.map_eq_some_iff.mp same.symm
    exact .inr ⟨first, second, rfl, yours, seen.symm⟩

theorem carriedLength : request.carriedLength = other.carriedLength := by
  rcases alike.carried_cases with ⟨mine, yours⟩ | ⟨first, second, mine, yours, seen⟩
  · rw [PrefillRequest.carriedLength, PrefillRequest.carriedLength, mine, yours]
  · rw [carriedLength_some mine, carriedLength_some yours, (Carried.seen_eq seen).2.1]

theorem newTokens : request.newTokens = other.newTokens := by
  rw [PrefillRequest.newTokens, PrefillRequest.newTokens, alike.carriedLength, alike.trueLength]

theorem long_enough : ¬request.paddedLength < request.trueLength ∧ ¬other.paddedLength < other.trueLength := by
  have reaches := alike.reaches
  have otherReaches := alike.otherReaches
  constructor
  · simpa [PrefillRequest.paddedLength, alike.vector] using reaches
  · simpa [PrefillRequest.paddedLength, alike.otherVector] using otherReaches

/-- No cut within the true length reaches the padding. -/
theorem narrow {count : Nat} (inside : count ≤ request.trueLength) :
    ∃ lead otherLead, request.padded.flatten.narrow 0 0 count = .ok lead ∧
      other.padded.flatten.narrow 0 0 count = .ok otherLead ∧ lead.shape = [count] ∧ otherLead.shape = [count] ∧
        lead.tokens = otherLead.tokens ∧ lead.tokens.length = count := by
  have reaches := alike.reaches
  have otherReaches := alike.otherReaches
  have same := alike.trueLength
  obtain ⟨lead, cut, shape, tokens⟩ := Tensor.narrow_vector alike.vector (inside.trans reaches)
  obtain ⟨otherLead, otherCut, otherShape, otherTokens⟩ :=
    Tensor.narrow_vector alike.otherVector ((inside.trans_eq same).trans otherReaches)
  rw [Tensor.flatten_vector alike.vector, Tensor.flatten_vector alike.otherVector]
  refine ⟨lead, otherLead, cut, otherCut, shape, otherShape, ?_, ?_⟩
  · have within : request.prompt.take count = other.prompt.take count := congrArg _ alike.prompt
    rw [PrefillRequest.prompt, PrefillRequest.prompt, List.take_take, List.take_take, Nat.min_eq_left inside,
      Nat.min_eq_left (inside.trans_eq same)] at within
    rw [tokens, otherTokens, within]
  · rw [tokens, List.length_take_of_le (inside.trans reaches)]

theorem checkCarried : request.checkCarried = other.checkCarried := by
  unfold PrefillRequest.checkCarried
  rcases alike.carried_cases with ⟨mine, yours⟩ | ⟨first, second, mine, yours, seen⟩
  · rw [mine, yours]
  · obtain ⟨-, -, ids⟩ := Carried.seen_eq seen
    rw [mine, yours]
    simp only [Carried.checkLeads, ids, alike.trueLength]
    split
    next => rfl
    next fits =>
      have inside : second.tokenIds.length ≤ request.trueLength := by
        rw [alike.trueLength]
        omega
      obtain ⟨lead, otherLead, cut, otherCut, -, -, tokens, -⟩ := alike.narrow inside
      rw [cut, otherCut]
      simp only [tokens]

theorem validate (limit : Nat) : request.validate limit = other.validate limit := by
  unfold PrefillRequest.validate
  rw [if_neg alike.long_enough.1, if_neg alike.long_enough.2, alike.checkCarried, alike.newTokens]

end Alike

variable {request other : PrefillRequest Prefilled}

theorem Alike.contextOf (alike : request.Alike other) : contextOf request = contextOf other := by
  obtain ⟨lead, otherLead, cut, otherCut, -, -, tokens, -⟩ := alike.narrow (Nat.le_refl _)
  rw [alike.trueLength] at otherCut
  unfold SlotServe.contextOf
  rw [cut, otherCut]
  rcases alike.carried_cases with ⟨mine, yours⟩ | ⟨first, second, mine, yours, seen⟩
  · rw [mine, yours]
    exact congrArg Except.ok tokens
  · obtain ⟨cache, length, -⟩ := Carried.seen_eq seen
    rw [mine, yours]
    simp only [ofTensor, bind, Except.bind, tokens, cache, length]

end PrefillRequest

namespace EngineSettings

variable {settings : EngineSettings} {table : TransitionTable} {request other : PrefillRequest Prefilled}

theorem scoreRequest_alike (alike : request.Alike other) :
    settings.scoreRequest table request = settings.scoreRequest table other := by
  rw [scoreRequest, scoreRequest, alike.validate, alike.contextOf]

theorem prefill_alike (alike : request.Alike other) :
    settings.prefill table request = settings.prefill table other := by
  rw [prefill, prefill, scoreRequest_alike alike, alike.sampler, alike.requestId]

theorem prefillMany_alike (alike : request.Alike other) (seed : Option UInt64) (count : Nat) :
    settings.prefillMany table request seed count = settings.prefillMany table other seed count := by
  rw [prefillMany, prefillMany, scoreRequest_alike alike, alike.sampler, alike.requestId]

end EngineSettings

theorem chunkEnds_le {first chunk last stop : Nat} (member : stop ∈ chunkEnds first chunk last) : stop ≤ last := by
  obtain ⟨_, -, rfl⟩ := List.mem_map.mp member
  exact Nat.min_le_right ..

namespace Executor

/-- A prefill in chunks reads of its request what one prefill reads. -/
theorem prefillPieces_alike {executor : Executor σ M P S V} {model : M}
    (same : ∀ {request other : PrefillRequest P}, request.Alike other →
      executor.prefill model request = executor.prefill model other)
    {request other : PrefillRequest P} (alike : request.Alike other) {carried otherCarried : Option (Carried P)}
    (seen : carried.map Carried.seen = otherCarried.map Carried.seen) {stops : List Nat}
    (within : ∀ stop ∈ stops, stop ≤ request.trueLength) :
    executor.prefillPieces model request request.padded.flatten carried stops =
      executor.prefillPieces model other other.padded.flatten otherCarried stops := by
  induction stops generalizing carried otherCarried with
  | nil => rfl
  | cons stop rest ih =>
    have inside := within stop (by simp)
    obtain ⟨lead, otherLead, cut, otherCut, shape, otherShape, tokens, length⟩ := alike.narrow inside
    have piece (sampler : Option Sampler) :
        (PrefillRequest.mk lead stop carried sampler request.requestId).Alike
          ⟨otherLead, stop, otherCarried, sampler, request.requestId⟩ := by
      have otherLength : otherLead.tokens.length = stop := tokens ▸ length
      exact ⟨rfl, rfl, rfl, seen, shape.trans (by rw [length]), otherShape.trans (by rw [otherLength]), length.ge,
        otherLength.ge, congrArg (List.take stop) tokens⟩
    have covers (cache : P) : (some (⟨cache, lead⟩ : Carried P)).map Carried.seen =
        (some (⟨cache, otherLead⟩ : Carried P)).map Carried.seen := by
      have size : lead.numCells = otherLead.numCells := by rw [Tensor.numCells, Tensor.numCells, shape, otherShape]
      simp only [Option.map_some, Carried.seen, Carried.length, Carried.tokenIds, size]
      exact congrArg (fun ids => some (cache, otherLead.numCells, ids)) tokens
    have later (cache : P) := ih (covers cache) fun stop member => within stop (by simp [member])
    unfold prefillPieces
    rw [cut, otherCut]
    change (executor.prefill model _ >>= _) = (executor.prefill model _ >>= _)
    rw [alike.sampler, ← alike.requestId, same (piece _)]
    cases rest with
    | nil => rfl
    | cons next rest => simp only [later]

theorem prefillChunked_alike {executor : Executor σ M P S V} {model : M}
    (same : ∀ {request other : PrefillRequest P}, request.Alike other →
      executor.prefill model request = executor.prefill model other)
    {request other : PrefillRequest P} (alike : request.Alike other) :
    executor.prefillChunked model request = executor.prefillChunked model other := by
  have within : ∀ stop ∈ chunkEnds request.carriedLength executor.limits.prefillChunkSize request.trueLength,
      stop ≤ request.trueLength := fun stop member => chunkEnds_le member
  have pieces := prefillPieces_alike same alike alike.carried within
  unfold prefillChunked
  dsimp only
  rw [if_neg alike.long_enough.1, if_neg alike.long_enough.2, alike.newTokens, same alike, alike.checkCarried, pieces,
    alike.carriedLength, alike.trueLength]

end Executor

/-- Prefill reads a prompt up to its true length only. For two vectors that show the same ids up to there, of
whatever types and lengths and with whatever ids behind, every kind of prefill has the same answer. -/
theorem padding_never_read (settings : EngineSettings) (build : VocabularySource → Except Fault V)
    (table : TransitionTable) (request : PrefillRequest Prefilled) (other : Tensor)
    (vector : request.padded.shape = [request.padded.tokens.length]) (otherVector : other.shape = [other.tokens.length])
    (reaches : request.trueLength ≤ request.padded.tokens.length) (otherReaches : request.trueLength ≤ other.tokens.length)
    (agree : request.padded.tokens.take request.trueLength = other.tokens.take request.trueLength) :
    let executor := settings.executor build
    let twin := { request with padded := other }
    executor.prefill table request = executor.prefill table twin ∧
      (∀ seed count, executor.prefillMany table request seed count = executor.prefillMany table twin seed count) ∧
      executor.prefillChunked table request = executor.prefillChunked table twin := by
  intro executor twin
  have alike : request.Alike twin := ⟨rfl, rfl, rfl, rfl, vector, otherVector, reaches, otherReaches, agree⟩
  have same {first second : PrefillRequest Prefilled} (alike : first.Alike second) :
      executor.prefill table first = executor.prefill table second :=
    congrArg answer (EngineSettings.prefill_alike alike)
  exact ⟨same alike, fun seed count => congrArg answer (EngineSettings.prefillMany_alike alike seed count),
    Executor.prefillChunked_alike same alike⟩

def EngineSettings.inPairs : EngineSettings :=
  { maxConcurrentDecodes := 1, useChunkedPrefill := true, prefillChunkSize := 2, maxPrefillLength := 4, vocabSize := 2,
    blockSize := 4, numBlocks := 2 }

def pairsRequest : PrefillRequest Prefilled :=
  { padded := .ofTokens [0, 1, 0, 1, 1, 0]
    trueLength := 5
    carried := some ⟨⟨[1, 1], [0], [0], none⟩, .ofTokens [0]⟩ }

def pairsOther : Tensor := ⟨[8], .i64 [0, 1, 0, 1, 1, 99, -7, 99]⟩

theorem pairs_padding_never_read :
    pairsRequest.padded.tokens ≠ pairsOther.tokens ∧
      pairsRequest.padded.tokens.take pairsRequest.trueLength = pairsOther.tokens.take pairsRequest.trueLength ∧
      (EngineSettings.inPairs.executor fun _ => .ok ()).prefillChunked ⟨⟨[2, 2], .ofReals [0, 1, 1, 0]⟩⟩ pairsRequest =
        (EngineSettings.inPairs.executor fun _ => .ok ()).prefillChunked ⟨⟨[2, 2], .ofReals [0, 1, 1, 0]⟩⟩
          { pairsRequest with padded := pairsOther } := by
  have agree : pairsRequest.padded.tokens.take pairsRequest.trueLength =
      pairsOther.tokens.take pairsRequest.trueLength := by decide
  have read := padding_never_read .inPairs (fun _ => (.ok () : Except Fault Unit)) ⟨⟨[2, 2], .ofReals [0, 1, 1, 0]⟩⟩
    pairsRequest pairsOther rfl rfl (by decide) (by decide) agree
  exact ⟨by decide, agree, read.2.2⟩

end SlotServe
