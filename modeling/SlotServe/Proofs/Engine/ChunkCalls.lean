import SlotServe.Proofs.Engine.ChunkedPrompt
import SlotServe.Proofs.Engine.PromptChecks
import SlotServe.Proofs.Engine.Recorded

/-! The calls of a prefill in chunks. What is wrong with the request itself is found before the first
call. After that a loop cuts the prompt at places that lie one chunk apart, until it has reached the end
of the prompt or a call fails, and hands what a call computed to the next one. -/
namespace SlotServe

variable {σ M P S V : Type}

theorem chunkEnds_at {start chunk stop index place : Nat} (found : (chunkEnds start chunk stop)[index]? = some place) :
    index < Size.groups (stop - start) chunk ∧ place = min (start + (index + 1) * chunk) stop := by
  rw [chunkEnds, List.getElem?_map] at found
  obtain ⟨round, located, rfl⟩ := Option.map_eq_some_iff.mp found
  obtain ⟨inside, rfl⟩ := List.getElem?_eq_some_iff.mp located
  rw [List.length_range] at inside
  exact ⟨inside, by rw [List.getElem_range]⟩

namespace PrefillRequest

variable {request : PrefillRequest P}

def Led (request : PrefillRequest P) : Prop := ∀ carried ∈ request.carried, carried.tokenIds <+: request.prompt

theorem led_iff : request.Led ↔ request.covered.length ≤ request.trueLength ∧ request.covered <+: request.padded.tokens := by
  unfold Led covered prompt
  cases request.carried with
  | none => simp
  | some carried => simp [List.prefix_take_iff, and_comm]

/-- Just what does not lead the prompt is refused. -/
theorem checkCarried_verdict (vector : request.padded.shape = [request.padded.tokens.length])
    (reaches : request.trueLength ≤ request.padded.tokens.length) :
    request.Led ∧ request.checkCarried = .ok () ∨
      ¬request.Led ∧ ∃ place, request.checkCarried = .error (.carriedMismatch place) := by
  rw [checkCarried_eq vector reaches, led_iff]
  by_cases longer : request.trueLength < request.covered.length
  · exact .inr ⟨fun led => by omega, _, if_pos longer⟩
  · rw [if_neg longer, ← firstDifference_eq_none (by omega)]
    cases firstDifference request.covered request.padded.tokens with
    | none => exact .inl ⟨⟨by omega, rfl⟩, rfl⟩
    | some place => exact .inr ⟨nofun, place, rfl⟩

def chunkTo (request : PrefillRequest P) (carried : Option (Carried P)) (lead : Tensor) (stop : Nat) :
    PrefillRequest P :=
  { padded := lead, trueLength := stop, carried
    sampler := if stop = request.trueLength then request.sampler else none
    requestId := request.requestId }

/-- The call at an index asks for one chunk more than the one before it, on top of what that one computed.
The first call carries what the request carries, and only the last one samples. -/
structure CallAt (request : PrefillRequest P) (chunk index : Nat) (piece : PrefillRequest P) : Prop where
  trueLength : piece.trueLength = min (request.carriedLength + (index + 1) * chunk) request.trueLength
  paddedLength : piece.paddedLength = piece.trueLength
  tokens : piece.padded.tokens = request.padded.tokens.take piece.trueLength
  first : index = 0 → piece.carried = request.carried
  later : 0 < index →
    ∃ carried, piece.carried = some carried ∧ carried.length = request.carriedLength + index * chunk
  sampler : piece.sampler = if index + 1 = Size.groups request.newTokens chunk then request.sampler else none
  requestId : piece.requestId = request.requestId

end PrefillRequest

namespace Executor

structure Cut (executor : Executor σ M P S V) (request : PrefillRequest P) (reached stop : Nat) (lead : Tensor) :
    Prop where
  place : stop = min (reached + executor.limits.prefillChunkSize) request.trueLength
  narrows : request.padded.flatten.narrow 0 0 stop = .ok lead

/-- The loop over the chunks after what is reached, the calls that it makes and its end. -/
inductive ChunkLoop (executor : Executor σ M P S V) (model : M) (request : PrefillRequest P) :
    Option (Carried P) → Nat → σ → List (PrefillRequest P) → EStateM.Result Fault σ (P × ResultBuffer) → Prop
  | failed {carried : Option (Carried P)} {reached stop : Nat} {lead : Tensor} {state after : σ} {fault : Fault}
      (cut : executor.Cut request reached stop lead)
      (call : executor.prefill model (request.chunkTo carried lead stop) state = .error fault after) :
      ChunkLoop executor model request carried reached state [request.chunkTo carried lead stop] (.error fault after)
  | last {carried : Option (Carried P)} {reached stop : Nat} {lead : Tensor} {state after : σ}
      {found : P × ResultBuffer} (cut : executor.Cut request reached stop lead) (whole : stop = request.trueLength)
      (call : executor.prefill model (request.chunkTo carried lead stop) state = .ok found after) :
      ChunkLoop executor model request carried reached state [request.chunkTo carried lead stop] (.ok found after)
  | more {carried : Option (Carried P)} {reached stop : Nat} {lead : Tensor} {state middle : σ} {cache : P}
      {buffer : ResultBuffer} {calls : List (PrefillRequest P)} {ended : EStateM.Result Fault σ (P × ResultBuffer)}
      (cut : executor.Cut request reached stop lead) (further : stop ≠ request.trueLength)
      (call : executor.prefill model (request.chunkTo carried lead stop) state = .ok (cache, buffer) middle)
      (rest : ChunkLoop executor model request (some ⟨cache, lead⟩) stop middle calls ended) :
      ChunkLoop executor model request carried reached state (request.chunkTo carried lead stop :: calls) ended

variable {executor : Executor σ M P S V} {model : M} {request : PrefillRequest P} {carried : Option (Carried P)}
  {reached : Nat} {state : σ} {calls : List (PrefillRequest P)} {ended : EStateM.Result Fault σ (P × ResultBuffer)}

/-- The loop ends: each round takes it further, and no further than the end of the prompt. -/
theorem chunkLoop_ends (executor : Executor σ M P S V) (model : M)
    (vector : request.padded.shape = [request.padded.tokens.length])
    (reaches : request.trueLength ≤ request.padded.tokens.length) (size : 1 ≤ executor.limits.prefillChunkSize)
    (carried : Option (Carried P)) (reached : Nat) (state : σ) (before : reached < request.trueLength) :
    ∃ calls ended, ChunkLoop executor model request carried reached state calls ended := by
  induction left : request.trueLength - reached using Nat.strongRecOn generalizing carried reached state with
  | ind left ih =>
    obtain ⟨stop, place⟩ : ∃ stop, stop = min (reached + executor.limits.prefillChunkSize) request.trueLength :=
      ⟨_, rfl⟩
    obtain ⟨lead, narrows, -⟩ := Tensor.narrow_vector vector (by omega : stop ≤ request.padded.tokens.length)
    rw [← Tensor.flatten_vector vector] at narrows
    have cut : executor.Cut request reached stop lead := ⟨place, narrows⟩
    cases call : executor.prefill model (request.chunkTo carried lead stop) state with
    | error fault after => exact ⟨_, _, .failed cut call⟩
    | ok found middle =>
      by_cases whole : stop = request.trueLength
      · exact ⟨_, _, .last cut whole call⟩
      · obtain ⟨calls, ended, rest⟩ := ih (request.trueLength - stop) (by omega) (some ⟨found.1, lead⟩) stop middle
          (by omega) rfl
        exact ⟨_, _, .more cut whole call rest⟩

section

variable {stop : Nat} {lead : Tensor} (cut : executor.Cut request reached stop lead)
  (before : reached < request.trueLength) (size : 1 ≤ executor.limits.prefillChunkSize)

include cut before size

theorem Cut.chunkEnds_eq : chunkEnds reached executor.limits.prefillChunkSize request.trueLength =
    stop :: chunkEnds stop executor.limits.prefillChunkSize request.trueLength := by
  rw [cut.place]
  exact chunkEnds_step before size

theorem Cut.prefillPieces_eq (carried : Option (Carried P)) : executor.prefillPieces model request
    request.padded.flatten carried (chunkEnds reached executor.limits.prefillChunkSize request.trueLength) =
      executor.prefill model (request.chunkTo carried lead stop) >>= fun found =>
        if stop = request.trueLength then pure found
        else executor.prefillPieces model request request.padded.flatten (some ⟨found.1, lead⟩)
          (chunkEnds stop executor.limits.prefillChunkSize request.trueLength) := by
  rw [cut.chunkEnds_eq before size, prefillPieces, cut.narrows]
  by_cases whole : stop = request.trueLength
  · simp only [whole, chunkEnds_empty, PrefillRequest.chunkTo, if_true]
    rfl
  · have place := cut.place
    simp only [chunkEnds_step (by omega : stop < request.trueLength) size, PrefillRequest.chunkTo, if_neg whole]
    rfl

end

namespace ChunkLoop

/-- The pieces of a prefill are the rounds of the loop. -/
theorem prefillPieces_eq (loop : ChunkLoop executor model request carried reached state calls ended)
    (before : reached < request.trueLength) (size : 1 ≤ executor.limits.prefillChunkSize) :
    executor.prefillPieces model request request.padded.flatten carried
      (chunkEnds reached executor.limits.prefillChunkSize request.trueLength) state = ended := by
  induction loop with
  | failed cut call => rw [cut.prefillPieces_eq before size, bind_error _ call]
  | last cut whole call => rw [cut.prefillPieces_eq before size, bind_ok _ call, if_pos whole]; rfl
  | more cut further call rest ih =>
    have place := cut.place
    rw [cut.prefillPieces_eq before size, bind_ok _ call, if_neg further]
    exact ih (by omega)

/-- Noting the calls down leaves the loop as it is. -/
theorem recorded (loop : ChunkLoop executor model request carried reached state calls ended)
    (noted : List (PrefillCall P)) :
    ∃ watched, ChunkLoop executor.recorded model request carried reached ⟨noted, state⟩ calls watched ∧
      (left watched).calls = noted ++ calls.map .picking := by
  induction loop generalizing noted with
  | failed cut call => exact ⟨_, .failed ⟨cut.place, cut.narrows⟩ (Recorded.calling_error call noted), rfl⟩
  | last cut whole call => exact ⟨_, .last ⟨cut.place, cut.narrows⟩ whole (Recorded.calling_ok call noted), rfl⟩
  | more cut further call rest ih =>
    obtain ⟨watched, going, all⟩ := ih (noted ++ [.picking _])
    refine ⟨watched, .more ⟨cut.place, cut.narrows⟩ further (Recorded.calling_ok call noted) going, ?_⟩
    rw [all, List.append_assoc]
    rfl

theorem trueLengths (loop : ChunkLoop executor model request carried reached state calls ended)
    (before : reached < request.trueLength) (size : 1 ≤ executor.limits.prefillChunkSize) :
    calls.map (·.trueLength) <+: chunkEnds reached executor.limits.prefillChunkSize request.trueLength ∧
      ∀ found after, ended = .ok found after →
        calls.map (·.trueLength) = chunkEnds reached executor.limits.prefillChunkSize request.trueLength := by
  induction loop with
  | failed cut call =>
    rw [cut.chunkEnds_eq before size]
    exact ⟨(List.prefix_cons_inj _).mpr List.nil_prefix, fun _ _ ok => by cases ok⟩
  | last cut whole call =>
    rw [cut.chunkEnds_eq before size, whole, chunkEnds_empty]
    exact ⟨List.prefix_refl _, fun _ _ _ => rfl⟩
  | more cut further call rest ih =>
    have place := cut.place
    obtain ⟨part, all⟩ := ih (by omega)
    rw [cut.chunkEnds_eq before size]
    exact ⟨(List.prefix_cons_inj _).mpr part, fun found after ok => congrArg _ (all found after ok)⟩

theorem asks (loop : ChunkLoop executor model request carried reached state calls ended)
    (vector : request.padded.shape = [request.padded.tokens.length])
    (reaches : request.trueLength ≤ request.padded.tokens.length) :
    ∀ piece ∈ calls, piece = request.chunkTo piece.carried piece.padded piece.trueLength ∧
      piece.padded.shape = [piece.trueLength] ∧
        piece.padded.tokens = request.padded.tokens.take piece.trueLength := by
  have shows {reached stop : Nat} {lead : Tensor} (cut : executor.Cut request reached stop lead) :
      lead.shape = [stop] ∧ lead.tokens = request.padded.tokens.take stop := by
    have place := cut.place
    obtain ⟨other, narrows, shown⟩ := Tensor.narrow_vector vector (by omega : stop ≤ request.padded.tokens.length)
    rw [← Tensor.flatten_vector vector, cut.narrows] at narrows
    obtain rfl := Except.ok.inj narrows
    exact shown
  induction loop with
  | failed cut call => exact List.forall_mem_singleton.mpr ⟨rfl, shows cut⟩
  | last cut whole call => exact List.forall_mem_singleton.mpr ⟨rfl, shows cut⟩
  | more cut further call rest ih => exact List.forall_mem_cons.mpr ⟨⟨rfl, shows cut⟩, ih⟩

theorem carries_first (loop : ChunkLoop executor model request carried reached state calls ended)
    {piece : PrefillRequest P} (found : calls[0]? = some piece) : piece.carried = carried := by
  cases loop <;> (cases found; rfl)

theorem carries_later (loop : ChunkLoop executor model request carried reached state calls ended) {previous : Nat}
    {piece : PrefillRequest P} (found : calls[previous + 1]? = some piece) :
    ∃ earlier cache, calls[previous]? = some earlier ∧ piece.carried = some ⟨cache, earlier.padded⟩ := by
  induction loop generalizing previous with
  | failed cut call => cases found
  | last cut whole call => cases found
  | more cut further call rest ih =>
    cases previous with
    | zero => exact ⟨_, _, rfl, rest.carries_first found⟩
    | succ previous => exact ih found

theorem fails (loop : ChunkLoop executor model request carried reached state calls ended) {fault : Fault} {after : σ}
    (failed : ended = .error fault after) :
    ∃ piece between, calls.getLast? = some piece ∧ executor.prefill model piece between = .error fault after := by
  induction loop with
  | failed cut call => exact ⟨_, _, rfl, call.trans failed⟩
  | last cut whole call => cases failed
  | more cut further call rest ih =>
    obtain ⟨piece, between, last, call⟩ := ih failed
    exact ⟨piece, between, List.mem_getLast?_cons last, call⟩

theorem callAt (loop : ChunkLoop executor model request request.carried request.carriedLength state calls ended)
    (before : request.carriedLength < request.trueLength) (size : 1 ≤ executor.limits.prefillChunkSize)
    (vector : request.padded.shape = [request.padded.tokens.length])
    (reaches : request.trueLength ≤ request.padded.tokens.length) {index : Nat} {piece : PrefillRequest P}
    (found : calls[index]? = some piece) :
    request.CallAt executor.limits.prefillChunkSize index piece := by
  have reachesTo {index : Nat} {piece : PrefillRequest P} (found : calls[index]? = some piece) :
      index < Size.groups request.newTokens executor.limits.prefillChunkSize ∧ piece.trueLength =
        min (request.carriedLength + (index + 1) * executor.limits.prefillChunkSize) request.trueLength := by
    obtain ⟨others, ends⟩ := (loop.trueLengths before size).1
    apply chunkEnds_at
    rw [← ends, List.getElem?_append_left, List.getElem?_map, found]
    · rfl
    · rw [List.length_map]
      exact (List.getElem?_eq_some_iff.mp found).1
  have asked := loop.asks vector reaches
  obtain ⟨same, shape, tokens⟩ := asked piece (List.mem_of_getElem? found)
  obtain ⟨inside, place⟩ := reachesTo found
  have final : Size.groups request.newTokens _ ≤ index + 1 ↔ _ := Size.groups_le_iff size (index + 1)
  have new : request.newTokens = request.trueLength - request.carriedLength := rfl
  refine ⟨place, by rw [PrefillRequest.paddedLength, shape]; rfl, tokens, ?_, ?_, ?_, by rw [same]; rfl⟩
  · rintro rfl
    exact loop.carries_first found
  · intro positive
    obtain ⟨previous, rfl⟩ : ∃ previous, index = previous + 1 := ⟨index - 1, by omega⟩
    obtain ⟨earlier, cache, located, carries⟩ := loop.carries_later found
    refine ⟨_, carries, ?_⟩
    obtain ⟨-, earlierShape, -⟩ := asked earlier (List.mem_of_getElem? located)
    -- The call before was not the last one, so its chunk is whole.
    have unfinished : Size.groups request.newTokens _ ≤ previous + 1 ↔ _ := Size.groups_le_iff size (previous + 1)
    have stopped := (reachesTo located).2
    rw [Carried.length, Tensor.numCells, earlierShape, volume, volume, Nat.mul_one, stopped]
    omega
  · have ends : piece.trueLength = request.trueLength ↔
        index + 1 = Size.groups request.newTokens executor.limits.prefillChunkSize := by omega
    rw [same]
    exact if_congr ends rfl rfl

end ChunkLoop

/-- A prompt that is longer than a chunk is cut up, once the request has been looked at. -/
theorem prefillChunked_long (executor : Executor σ M P S V) (model : M)
    (chunking : executor.limits.useChunkedPrefill = true)
    (size : 1 ≤ executor.limits.prefillChunkSize) (long : executor.limits.prefillChunkSize < request.newTokens) :
    executor.prefillChunked model request = (do
      if request.paddedLength < request.trueLength then
        throw (.tokensTooShort request.paddedLength request.trueLength)
      answer request.checkCarried
      executor.prefillPieces model request request.padded.flatten request.carried
        (chunkEnds request.carriedLength executor.limits.prefillChunkSize request.trueLength)) := by
  have cutUp : ¬(!executor.limits.useChunkedPrefill || executor.limits.prefillChunkSize = 0 ||
      request.newTokens ≤ executor.limits.prefillChunkSize) = true := by
    simp [chunking]
    omega
  rw [prefillChunked]
  exact if_neg cutUp

/-- Prefill in chunks calls the executor only when the padding reaches and the carried tokens lead the
prompt. It then runs the loop of calls to its end, with as many calls as there are chunks in the new tokens
unless one of them fails. -/
theorem chunk_calls (executor : Executor σ M P S V) (model : M) (request : PrefillRequest P) (state : σ)
    (chunking : executor.limits.useChunkedPrefill = true) (size : 1 ≤ executor.limits.prefillChunkSize)
    (vector : request.padded.shape = [request.padded.tokens.length])
    (long : executor.limits.prefillChunkSize < request.newTokens) :
    let chunk := executor.limits.prefillChunkSize
    let ended := executor.prefillChunked model request state
    let recorded := executor.recorded.prefillChunked model request ⟨[], state⟩
    SameEnd Recorded.Watches ended recorded ∧
    (request.paddedLength < request.trueLength →
      recorded = .error (.tokensTooShort request.paddedLength request.trueLength) ⟨[], state⟩) ∧
    (request.trueLength ≤ request.paddedLength → ¬request.Led →
      ∃ place, recorded = .error (.carriedMismatch place) ⟨[], state⟩) ∧
    (request.trueLength ≤ request.paddedLength → request.Led →
      ∃ calls, ChunkLoop executor model request request.carried request.carriedLength state calls ended ∧
        (left recorded).calls = calls.map .picking ∧
        calls.length ≤ Size.groups request.newTokens chunk ∧
        (∀ found after, ended = .ok found after → calls.length = Size.groups request.newTokens chunk) ∧
        (∀ fault after, ended = .error fault after →
          ∃ piece between, calls.getLast? = some piece ∧ executor.prefill model piece between = .error fault after) ∧
        ∀ index piece, calls[index]? = some piece → request.CallAt chunk index piece) := by
  intro chunk ended recorded
  have same : SameEnd Recorded.Watches ended recorded :=
    executor.recorded_mirrored.prefillChunked model request state ⟨[], state⟩ rfl
  have plain := executor.prefillChunked_long model chunking size long
  have noted := executor.recorded.prefillChunked_long model chunking size long
  have padded : request.paddedLength = request.padded.tokens.length := by
    rw [PrefillRequest.paddedLength, vector]
    rfl
  refine ⟨same, ?_, ?_, ?_⟩
  · intro short
    simp only [recorded, noted, if_pos short]
    rfl
  · intro reaches unled
    rcases request.checkCarried_verdict vector (padded ▸ reaches) with ⟨led, -⟩ | ⟨-, place, refused⟩
    · exact absurd led unled
    · refine ⟨place, ?_⟩
      simp only [recorded, noted, if_neg (Nat.not_lt.mpr reaches), refused]
      rfl
  · intro reaches led
    have before : request.carriedLength < request.trueLength := by
      have new : request.newTokens = request.trueLength - request.carriedLength := rfl
      omega
    have checked : request.checkCarried = .ok () := by
      rcases request.checkCarried_verdict vector (padded ▸ reaches) with ⟨-, passed⟩ | ⟨unled, -⟩
      · exact passed
      · exact absurd led unled
    -- The loop is run once; the prefill and the one that notes its calls down both end as it does.
    obtain ⟨calls, final, loop⟩ := chunkLoop_ends executor model vector (padded ▸ reaches) size request.carried
      request.carriedLength state before
    obtain ⟨watched, going, all⟩ := loop.recorded []
    have endedAs : ended = final := by
      simp only [ended, plain, if_neg (Nat.not_lt.mpr reaches), checked]
      exact loop.prefillPieces_eq before size
    have recordedAs : recorded = watched := by
      simp only [recorded, noted, if_neg (Nat.not_lt.mpr reaches), checked]
      exact going.prefillPieces_eq before size
    obtain ⟨part, whole⟩ := loop.trueLengths before size
    have count : (chunkEnds request.carriedLength chunk request.trueLength).length =
        Size.groups request.newTokens chunk := by
      rw [chunkEnds, List.length_map, List.length_range]
      rfl
    rw [endedAs, recordedAs]
    refine ⟨calls, loop, all, ?_, ?_, fun fault after failed => loop.fails failed,
      fun index piece found => loop.callAt before size vector (padded ▸ reaches) found⟩
    · rw [← count, ← List.length_map (f := (·.trueLength))]
      exact part.length_le
    · intro found after ok
      rw [← count, ← whole found after ok, List.length_map]

end Executor

open EngineSettings in
theorem resumed_prompt_calls :
    let executor := pieced.executor fun _ => Except.ok ()
    let recorded := executor.recorded.prefillChunked ⟨⟨[2, 2], .ofReals [0, 1, 1, 0]⟩⟩ resumedRequest ⟨[], .fresh 4 2 2 1⟩
    executor.limits.prefillChunkSize = 2 ∧ resumedRequest.newTokens = 5 ∧ resumedRequest.Led ∧
    ((left recorded).calls.map fun call => call.request.trueLength) = [3, 5, 6] ∧
    ∃ calls : List (PrefillRequest Prefilled), (left recorded).calls = calls.map .picking ∧
      ∀ index piece, calls[index]? = some piece → resumedRequest.CallAt 2 index piece := by
  have led : resumedRequest.Led := by
    rintro _ ⟨⟩
    decide
  obtain ⟨-, -, -, called⟩ := Executor.chunk_calls (pieced.executor fun _ => Except.ok ())
    ⟨⟨[2, 2], .ofReals [0, 1, 1, 0]⟩⟩ resumedRequest (.fresh 4 2 2 1) rfl (by decide) rfl (by decide)
  obtain ⟨calls, -, all, -, -, -, each⟩ := called (by decide) led
  exact ⟨rfl, rfl, led, by with_unfolding_all rfl, calls, all, each⟩

end SlotServe
