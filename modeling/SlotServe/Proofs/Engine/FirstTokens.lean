import SlotServe.Engine.Chunked
import SlotServe.Proofs.Engine.Successor
import SlotServe.Proofs.Result.RoundTrip

/-! The first tokens after a prompt. Prefill looks up the scores after the last token of the prompt,
whether it computes the prompt at once or in chunks, and shows the tokens that it hands on. -/
namespace SlotServe

namespace Tensor

theorem flatten_ofTokens (tokens : List UInt32) : (ofTokens tokens).flatten = ofTokens tokens := by
  simp [flatten, ofTokens, volume]

theorem fits_ofTokens (tokens : List UInt32) : (ofTokens tokens).Fits := by
  simp [Fits, ofTokens, Cells.length, volume]

theorem narrow_ofTokens {tokens : List UInt32} {count : Nat} {lead : Tensor}
    (ok : (ofTokens tokens).narrow 0 0 count = .ok lead) :
    count ≤ tokens.length ∧ lead = ofTokens (tokens.take count) := by
  simp only [narrow, ofTokens, List.getElem?_cons_zero] at ok
  split at ok
  next => cases ok
  next inside =>
    have fits : count ≤ tokens.length := by omega
    refine ⟨fits, (Except.ok.inj ok).symm.trans ?_⟩
    simp [ofTokens, Cells.rearrange, volume, pieces, fits]

end Tensor

theorem chunkEnds_last {start chunk stop last : Nat} (size : 0 < chunk)
    (final : (chunkEnds start chunk stop).getLast? = some last) : last = stop := by
  have reached := (Size.groups_le_iff size (Size.groups (stop - start) chunk)).mp (Nat.le_refl _)
  unfold chunkEnds at final
  generalize Size.groups (stop - start) chunk = count at final reached
  rw [List.getLast?_map, List.getLast?_range] at final
  cases count with
  | zero => cases final
  | succ count =>
    obtain rfl : min (start + (count + 1) * chunk) stop = last := Option.some.inj final
    omega

namespace Executor

variable {σ M P S V : Type} {executor : Executor σ M P S V} {model : M} {request : PrefillRequest P}
  {engine after : σ} {answer : P × ResultBuffer}

/-- The answer of a prefill in pieces is that of its last piece. -/
theorem prefillPieces_success {tokens : Tensor} {carried : Option (Carried P)} {stops : List Nat}
    (ok : executor.prefillPieces model request tokens carried stops engine = .ok answer after) :
    ∃ piece between, executor.prefill model piece between = .ok answer after ∧
      piece.sampler = request.sampler ∧ stops.getLast? = some piece.trueLength ∧
      tokens.narrow 0 0 piece.trueLength = .ok piece.padded := by
  induction stops generalizing carried engine with
  | nil => cases ok
  | cons stop rest ih =>
    obtain ⟨lead, _, cutting, calling⟩ := bind_links ok
    obtain ⟨cut, rfl⟩ := answer_success cutting
    obtain ⟨⟨cache, buffer⟩, middle, computed, going⟩ := bind_links calling
    cases rest with
    | nil =>
      cases going
      exact ⟨_, _, computed, rfl, rfl, ofTensor_success cut⟩
    | cons next rest =>
      obtain ⟨piece, between, final, sampler, last, narrowed⟩ := ih going
      exact ⟨piece, between, final, sampler, List.getLast?_cons_cons.trans last, narrowed⟩

theorem prefillChunked_success {tokens : List UInt32} (padded : request.padded = .ofTokens tokens)
    (ok : executor.prefillChunked model request engine = .ok answer after) :
    ∃ piece lead between, executor.prefill model piece between = .ok answer after ∧
      piece.sampler = request.sampler ∧ piece.padded = .ofTokens lead ∧
      lead.take piece.trueLength = tokens.take request.trueLength := by
  unfold prefillChunked at ok
  dsimp only at ok
  split at ok
  next => exact ⟨request, tokens, engine, ok, rfl, padded, rfl⟩
  next chunked =>
    have size : 0 < executor.limits.prefillChunkSize := by
      simp only [Bool.or_eq_true, decide_eq_true_eq, not_or] at chunked
      omega
    split at ok
    next => cases ok
    next =>
      obtain ⟨_, _, checked, pieces⟩ := bind_links ok
      obtain ⟨-, rfl⟩ := answer_success checked
      obtain ⟨piece, between, computed, sampler, last, cut⟩ := prefillPieces_success pieces
      rw [padded, Tensor.flatten_ofTokens] at cut
      obtain ⟨-, lead⟩ := Tensor.narrow_ofTokens cut
      refine ⟨piece, _, between, computed, sampler, lead, ?_⟩
      rw [List.take_take, Nat.min_self, chunkEnds_last size last]

end Executor

/-- The buffer shows these tokens, one for each sample, as far as it has rows. -/
def ResultBuffer.Shows (buffer : ResultBuffer) (tokens : List UInt32) (samplesPerSlot : Nat) : Prop :=
  ∃ rows width, buffer.Packs rows width samplesPerSlot ∧
    rows.map (·.content) <+: tokens.map fun token => ([token], [true])

theorem PrefillRequest.validate_success {P : Type} {request : PrefillRequest P} {limit : Nat}
    (valid : request.validate limit = .ok ()) : request.carriedLength < request.trueLength := by
  unfold validate at valid
  dsimp only at valid
  split at valid
  next => cases valid
  next =>
    obtain ⟨_, _, checked⟩ := except_links valid
    split at checked
    next => cases checked
    next some =>
      unfold newTokens at some
      omega

namespace TransitionTable

variable {table : TransitionTable} {sampler : Option Sampler}

theorem rowsOf_shape {tokens : List UInt32} {scores : Tensor} (ok : table.rowsOf tokens = .ok scores) :
    ∃ rest, table.scores.shape = table.vocabSize :: rest ∧ scores.shape = tokens.length :: rest := by
  unfold rowsOf at ok
  split at ok
  next => cases ok
  next =>
    have selected := ofTensor_success ok
    unfold Tensor.selectRows at selected
    split at selected
    next => cases selected
    next size rest shape =>
      split at selected
      next =>
        cases selected
        refine ⟨rest, ?_, by rw [List.length_map]⟩
        rw [shape, vocabSize, shape]
        rfl
      next => cases selected

theorem pickTokens_length {scores : Tensor} {tokens : List UInt32}
    (ok : pickTokens scores sampler = .ok tokens) : scores.shape[0]? = some tokens.length := by
  obtain ⟨rows, counted, ok⟩ := except_links ok
  obtain ⟨chosen, _, ok⟩ := except_links ok
  have size := ofTensor_success counted
  unfold Tensor.size at size
  dsimp only at ok
  split at ok
  next => cases ok
  next same =>
    cases ok
    split at size
    next found shape =>
      rw [shape, Except.ok.inj size]
      exact congrArg some (Classical.not_not.mp same).symm
    next => cases size

end TransitionTable

namespace EngineSettings

variable {settings : EngineSettings} {table : TransitionTable} {request : PrefillRequest Prefilled}
  {tokens : List UInt32} {start : Prefilled} {first : ResultBuffer}

theorem scoreRequest_success (padded : request.padded = .ofTokens tokens) {context : List UInt32} {scores : Tensor}
    (ok : settings.scoreRequest table request = .ok (context, scores)) :
    ∃ last, (tokens.take request.trueLength).getLast? = some last ∧ table.rowsOf [last] = .ok scores := by
  obtain ⟨_, valid, ok⟩ := except_links ok
  obtain ⟨found, contextual, ok⟩ := except_links ok
  obtain ⟨lead, narrowed, contextual⟩ := except_links contextual
  have cut := ofTensor_success narrowed
  rw [padded, Tensor.flatten_ofTokens] at cut
  obtain ⟨fits, rfl⟩ := Tensor.narrow_ofTokens cut
  have last : found.getLast? = (tokens.take request.trueLength).getLast? := by
    cases carrying : request.carried with
    | none =>
      rw [carrying] at contextual
      cases contextual
      rfl
    | some carried =>
      rw [carrying] at contextual
      dsimp only at contextual
      split at contextual
      next => cases contextual
      next =>
        cases contextual
        have shorter : request.carriedLength < request.trueLength := PrefillRequest.validate_success valid
        have size : (tokens.take request.trueLength).length = request.trueLength := List.length_take_of_le fits
        have length : request.carriedLength = carried.length := by rw [PrefillRequest.carriedLength, carrying]; rfl
        have some : (tokens.take request.trueLength).getLast?.isSome = true := by
          rw [List.getLast?_isSome, List.ne_nil_iff_length_pos, size]
          omega
        change (carried.cache.context ++ (tokens.take request.trueLength).drop carried.length).getLast? = _
        rw [List.getLast?_append, List.getLast?_drop, size, if_neg (by omega), Option.or_of_isSome some]
  split at ok
  next => cases ok
  next final ends =>
    obtain ⟨_, looked, ok⟩ := except_links ok
    cases ok
    exact ⟨final, last.symm.trans ends, looked⟩

/-- Prefill hands on the one token that is picked from the scores after the last token of the prompt. -/
theorem prefill_picked (padded : request.padded = .ofTokens tokens)
    (ok : settings.prefill table request = .ok (start, first)) :
    ∃ last scores next, (tokens.take request.trueLength).getLast? = some last ∧ table.rowsOf [last] = .ok scores ∧
      pickTokens scores request.sampler = .ok [next] ∧ start.firstTokens = [next] ∧
      first.Shows start.firstTokens 1 := by
  obtain ⟨⟨context, scores⟩, scored, ok⟩ := except_links ok
  obtain ⟨last, ends, looked⟩ := scoreRequest_success padded scored
  obtain ⟨picked, picking, ok⟩ := except_links ok
  obtain ⟨logProbs, _, ok⟩ := except_links ok
  obtain ⟨rest, -, shape⟩ := TransitionTable.rowsOf_shape looked
  have single := TransitionTable.pickTokens_length picking
  rw [shape] at single
  obtain ⟨next, rfl⟩ := List.length_eq_one_iff.mp (Option.some.inj single).symm
  obtain ⟨buffer, packing, ok⟩ := except_links ok
  cases ok
  obtain ⟨width, packs⟩ := ResultBuffer.ofSamples_packs packing
  exact ⟨last, scores, next, ends, looked, picking, rfl, _, width, packs, List.prefix_rfl⟩

theorem prefillMany_success {seed : Option UInt64} {count : Nat}
    (ok : settings.prefillMany table request seed count = .ok (start, first)) :
    first.Shows start.firstTokens count := by
  unfold prefillMany at ok
  split at ok
  next => cases ok
  next =>
    obtain ⟨⟨context, scores⟩, _, ok⟩ := except_links ok
    obtain ⟨⟨tokens, logProbs⟩, _, ok⟩ := except_links ok
    obtain ⟨buffer, packing, ok⟩ := except_links ok
    cases ok
    obtain ⟨width, packs⟩ := ResultBuffer.ofSamples_packs packing
    refine ⟨_, width, packs, ?_⟩
    rw [List.map_zipWith]
    exact zipWith_prefix_map (fun token => ([token], [true])) tokens logProbs

end EngineSettings

end SlotServe
