import SlotServe.Proofs.Engine.FirstTokens
import SlotServe.Proofs.Result.SingleRows

/-! A prompt that its carried cache leads. What a prefill then answers is settled by its sampler, its
context and the last prompt token alone. -/
namespace SlotServe

theorem Cells.length_toU32 (cells : Cells) : cells.toU32.length = cells.length := by
  cases cells <;> simp [Cells.toU32, Cells.length]

theorem firstDifference_self (tokens : List UInt32) : firstDifference tokens tokens = none := by
  induction tokens with
  | nil => rfl
  | cons token rest ih => simp [firstDifference, ih]

namespace Tensor

variable {tensor : Tensor}

theorem narrow_vector (vector : tensor.shape = [tensor.tokens.length]) {count : Nat}
    (inside : count ≤ tensor.tokens.length) :
    ∃ lead, tensor.narrow 0 0 count = .ok lead ∧ lead.shape = [count] ∧
      lead.tokens = tensor.tokens.take count := by
  obtain ⟨shape, cells⟩ := tensor
  obtain rfl : shape = [cells.toU32.length] := vector
  have within : count ≤ cells.toU32.length := inside
  refine ⟨⟨[count], cells.rearrange fun items => (items.take cells.toU32.length).take count⟩, ?_, rfl, ?_⟩
  · simp [narrow, within, volume, pieces]
  · have short : ∀ {α : Type} (items : List α), (items.take cells.toU32.length).take count = items.take count :=
      fun items => by rw [List.take_take, Nat.min_eq_left within]
    simp only [short, tokens]
    cases cells <;> simp [Cells.toU32, Cells.rearrange, List.map_take]

theorem flatten_vector {size : Nat} (vector : tensor.shape = [size]) : tensor.flatten = tensor := by
  obtain ⟨shape, cells⟩ := tensor
  obtain rfl : shape = [size] := vector
  simp [flatten, volume]

end Tensor

namespace PrefillRequest

variable {P : Type}

/-- The prompt is a vector that reaches its true length, and the carried cache covers a proper part of
that from its start. What the cache holds does not matter. -/
structure Coherent (request : PrefillRequest P) : Prop where
  vector : request.padded.shape = [request.padded.tokens.length]
  reaches : request.trueLength ≤ request.padded.tokens.length
  fits : ∀ carried ∈ request.carried, carried.tokens.Fits
  leads : ∀ carried ∈ request.carried, carried.tokenIds <+: request.padded.tokens
  shorter : request.carriedLength < request.trueLength

def prompt (request : PrefillRequest P) : List UInt32 := request.padded.tokens.take request.trueLength

def context (request : PrefillRequest Prefilled) : List UInt32 :=
  ((request.carried.map (·.cache.context)).getD []) ++ request.prompt.drop request.carriedLength

def piece (request : PrefillRequest P) (lead : Tensor) (stop : Nat) (sampler : Option Sampler) :
    PrefillRequest P :=
  { request with padded := lead, trueLength := stop, sampler }

def carrying (request : PrefillRequest P) (carried : Option (Carried P)) : PrefillRequest P :=
  { request with carried }

theorem carrying_carrying (request : PrefillRequest P) (first second : Option (Carried P)) :
    (request.carrying first).carrying second = request.carrying second := rfl

theorem carriedLength_some {request : PrefillRequest P} {carried : Carried P}
    (carrying : request.carried = some carried) : request.carriedLength = carried.length := by
  rw [carriedLength, carrying]
  rfl

namespace Coherent

section

variable {request : PrefillRequest P} (coherent : request.Coherent)

include coherent

theorem length_tokenIds {carried : Carried P} (carrying : request.carried = some carried) :
    carried.tokenIds.length = request.carriedLength := by
  have fits := coherent.fits carried carrying
  exact ((Cells.length_toU32 _).trans fits).trans (carriedLength_some carrying).symm

theorem paddedLength_eq : request.paddedLength = request.padded.tokens.length := by
  rw [paddedLength, coherent.vector]
  rfl

theorem length_prompt : request.prompt.length = request.trueLength :=
  List.length_take_of_le coherent.reaches

theorem checkCarried_ok : request.checkCarried = .ok () := by
  unfold checkCarried
  cases carrying : request.carried with
  | none => rfl
  | some carried =>
    have leads := coherent.leads carried carrying
    have size := coherent.length_tokenIds carrying
    have shorter := coherent.shorter
    obtain ⟨lead, cut, -, tokens⟩ := Tensor.narrow_vector coherent.vector leads.length_le
    simp only [Carried.checkLeads, Tensor.flatten_vector coherent.vector]
    rw [if_neg (by omega), cut]
    dsimp only
    rw [tokens, ← List.prefix_iff_eq_take.mp leads, firstDifference_self]

theorem validate_eq (limit : Nat) :
    request.validate limit =
      if limit < request.newTokens then .error (.promptTooLong request.newTokens limit) else .ok () := by
  have reaches := coherent.reaches
  have some : request.newTokens ≠ 0 := by
    have := coherent.shorter
    unfold newTokens
    omega
  unfold validate
  rw [coherent.paddedLength_eq, coherent.checkCarried_ok, if_neg (by omega), if_neg some]
  rfl

theorem piece {lead : Tensor} {stop : Nat} (shape : lead.shape = [stop])
    (tokens : lead.tokens = request.padded.tokens.take stop) (more : request.carriedLength < stop)
    (inside : stop ≤ request.trueLength) (sampler : Option Sampler) :
    (request.piece lead stop sampler).Coherent := by
  have reaches := coherent.reaches
  have size : lead.tokens.length = stop := by rw [tokens, List.length_take_of_le (by omega)]
  refine ⟨shape.trans (by rw [← size]; rfl), Nat.le_of_eq size.symm, coherent.fits, ?_, more⟩
  intro carried carrying
  have covered := coherent.length_tokenIds carrying
  change carried.tokenIds <+: lead.tokens
  rw [tokens, List.prefix_take_iff]
  exact ⟨coherent.leads carried carrying, by omega⟩

/-- The prompt stays coherent when the next call carries on from a piece that ends before it. -/
theorem carryOn {lead : Tensor} {stop : Nat} (shape : lead.shape = [stop])
    (tokens : lead.tokens = request.padded.tokens.take stop) (inside : stop < request.trueLength) (cache : P) :
    (request.carrying (some ⟨cache, lead⟩)).Coherent ∧
      (request.carrying (some ⟨cache, lead⟩)).carriedLength = stop := by
  have reaches := coherent.reaches
  have volume : lead.numCells = stop := by simp [Tensor.numCells, shape, volume]
  have size : lead.tokens.length = stop := by rw [tokens, List.length_take_of_le (by omega)]
  refine ⟨⟨coherent.vector, reaches, ?_, ?_, ?_⟩, volume⟩
  · rintro _ ⟨⟩
    exact (Cells.length_toU32 lead.cells).symm.trans (size.trans volume.symm)
  · rintro _ ⟨⟩
    change lead.tokens <+: request.padded.tokens
    rw [tokens]
    exact List.take_prefix stop request.padded.tokens
  · exact volume.trans_lt inside

end

variable {request : PrefillRequest Prefilled} (coherent : request.Coherent)

include coherent

theorem last_context :
    ∃ last ∈ request.prompt, request.context.getLast? = some last := by
  have size := coherent.length_prompt
  have shorter := coherent.shorter
  have some : request.prompt ≠ [] := by
    rw [List.ne_nil_iff_length_pos]
    omega
  refine ⟨request.prompt.getLast some, List.getLast_mem some, ?_⟩
  rw [context, List.getLast?_append, List.getLast?_drop, if_neg (by omega), List.getLast?_eq_some_getLast some]
  rfl

theorem contextOf_eq :
    contextOf request = .ok request.context := by
  obtain ⟨lead, cut, -, tokens⟩ := Tensor.narrow_vector coherent.vector coherent.reaches
  have shorter := coherent.shorter
  have size : lead.tokens.length = request.trueLength := by rw [tokens, ← prompt, coherent.length_prompt]
  unfold contextOf context
  rw [Tensor.flatten_vector coherent.vector, cut, prompt, ← tokens]
  cases carrying : request.carried with
  | none =>
    rw [carriedLength, carrying]
    rfl
  | some carried =>
    rw [carriedLength_some carrying]
    have covered := carriedLength_some carrying
    change (if lead.tokens.length < carried.length then _ else _) = _
    rw [if_neg (by omega)]
    rfl

end Coherent

end PrefillRequest

namespace TransitionTable

def handOn (table : TransitionTable) (sampler : Option Sampler) (requestId : Option RequestId)
    (context : List UInt32) (last : UInt32) : Except Fault (Prefilled × ResultBuffer) := do
  let scores ← table.rowsOf [last]
  let tokens ← pickTokens scores sampler
  let logProbs ← ofTensor (Sampling.tokenLogProbs scores tokens)
  match tokens with
  | [] => throw (.defect .outOfBounds)
  | first :: _ =>
    let buffer ← ResultBuffer.ofSamples [(RowSample.single first true 1).withLogProb logProbs] 1
    return (⟨context, tokens, logProbs, requestId⟩, buffer)

def Matrix (table : TransitionTable) (width : Nat) : Prop := table.scores.shape = [table.vocabSize, width]

variable {table : TransitionTable} {sampler : Option Sampler} {requestId : Option RequestId}
  {context : List UInt32} {last : UInt32} {start : Prefilled} {buffer : ResultBuffer}

theorem handOn_picked {width : Nat} {cells : Cells} {token : UInt32}
    (looked : table.rowsOf [last] = .ok ⟨[1, width], cells⟩)
    (picked : pickTokens ⟨[1, width], cells⟩ sampler = .ok [token]) (requestId : Option RequestId)
    (context : List UInt32) :
    ∃ logProb, table.handOn sampler requestId context last =
      .ok (⟨context, [token], [logProb], requestId⟩,
        ResultBuffer.ofSingles [(RowSample.single token true 1).withLogProb [logProb]] 1) := by
  have scored : ∃ logProb, Sampling.tokenLogProbs ⟨[1, width], cells⟩ [token] = .ok [logProb] := ⟨_, rfl⟩
  obtain ⟨logProb, scored⟩ := scored
  have single : ∀ sample ∈ [(RowSample.single token true 1).withLogProb [logProb]], sample.Single := by
    simpa using RowSample.single_scored token true 1 logProb
  have packs := ResultBuffer.ofSamples_singles single (by simp) Nat.one_pos (Nat.one_dvd _)
  refine ⟨logProb, ?_⟩
  simp only [handOn, looked, picked, scored, packs, ofTensor, bind, Except.bind]
  rfl

/-- Log probabilities are read off a matrix only, and there is one for the one token that is picked. -/
theorem handOn_links (ok : table.handOn sampler requestId context last = .ok (start, buffer)) :
    ∃ width cells token logProb, table.Matrix width ∧ table.rowsOf [last] = .ok ⟨[1, width], cells⟩ ∧
      pickTokens ⟨[1, width], cells⟩ sampler = .ok [token] ∧ start = ⟨context, [token], [logProb], requestId⟩ ∧
      buffer = ResultBuffer.ofSingles [(RowSample.single token true 1).withLogProb [logProb]] 1 := by
  have answered := ok
  obtain ⟨⟨found, cells⟩, looked, ok⟩ := except_links ok
  obtain ⟨rest, shape, cut⟩ := rowsOf_shape looked
  obtain rfl : found = 1 :: rest := cut
  obtain ⟨tokens, picked, ok⟩ := except_links ok
  obtain ⟨token, rfl⟩ := List.length_eq_one_iff.mp (Option.some.inj (pickTokens_length picked)).symm
  obtain ⟨logProbs, scored, _⟩ := except_links ok
  obtain ⟨rows, read, _⟩ := except_links (ofTensor_success scored)
  match rest, read with
  | [width], _ =>
    obtain ⟨logProb, handed⟩ := handOn_picked looked picked requestId context
    cases answered.symm.trans handed
    exact ⟨width, cells, token, logProb, shape, looked, picked, rfl, rfl⟩

theorem handOn_success (ok : table.handOn sampler requestId context last = .ok (start, buffer)) :
    ∃ width token logProb, table.Matrix width ∧ start = ⟨context, [token], [logProb], requestId⟩ ∧
      buffer = ResultBuffer.ofSingles [(RowSample.single token true 1).withLogProb [logProb]] 1 := by
  obtain ⟨width, _, token, logProb, matrix, -, -, handed⟩ := handOn_links ok
  exact ⟨width, token, logProb, matrix, handed⟩

theorem handOn_context (ok : table.handOn sampler requestId context last = .ok (start, buffer)) :
    start.context = context := by
  obtain ⟨_, _, _, -, rfl, -⟩ := handOn_success ok
  rfl

theorem rowsOf_matrix {width : Nat} (matrix : table.Matrix width) {tokens : List UInt32}
    (inside : ∀ token ∈ tokens, token.toNat < table.vocabSize) :
    ∃ cells, table.rowsOf tokens = .ok ⟨[tokens.length, width], cells⟩ := by
  have none : tokens.find? (fun token => table.vocabSize ≤ token.toNat) = none := by
    refine List.find?_eq_none.mpr fun token member => ?_
    simpa using inside token member
  have all : (tokens.map UInt32.toNat).all (· < table.vocabSize) = true := by
    simpa using inside
  have shape : table.scores.shape = [table.vocabSize, width] := matrix
  unfold rowsOf Tensor.selectRows
  rw [none, shape]
  dsimp only
  rw [if_pos all, List.length_map]
  exact ⟨_, rfl⟩

theorem length_choose (extreme : Extreme) (count width : Nat) (cells : Cells) :
    (cells.choose extreme count width).length = count := by
  cases cells <;> simp [Cells.choose, length_pieces]

theorem handOn_greedy {width : Nat} (matrix : table.Matrix width) (some : 0 < width)
    (inside : last.toNat < table.vocabSize) (requestId : Option RequestId) (context : List UInt32) :
    ∃ answer, table.handOn none requestId context last = .ok answer := by
  have single : ∀ token ∈ [last], token.toNat < table.vocabSize := by simpa using inside
  obtain ⟨cells, looked⟩ := rowsOf_matrix matrix single
  obtain ⟨best, chosen⟩ := List.length_eq_one_iff.mp (length_choose .largest 1 width cells)
  have greedy : Sampling.greedyTokens ⟨[1, width], cells⟩ = .ok ⟨[1], .u32 [UInt32.ofNat best]⟩ := by
    have one : volume [1] = 1 := rfl
    have wide : width ≠ 0 := Nat.ne_of_gt some
    simp [Sampling.greedyTokens, Tensor.choose, one, wide, chosen]
  have picked : pickTokens ⟨[1, width], cells⟩ none = .ok [UInt32.ofNat best] := by
    unfold pickTokens
    rw [greedy]
    rfl
  obtain ⟨logProb, handed⟩ := handOn_picked looked picked requestId context
  exact ⟨_, handed⟩

/-- Without a score there is no best one. -/
theorem handOn_empty (matrix : table.Matrix 0) (inside : last.toNat < table.vocabSize) (requestId : Option RequestId)
    (context : List UInt32) : table.handOn none requestId context last = .error (.tensor .empty) := by
  have single : ∀ token ∈ [last], token.toNat < table.vocabSize := by simpa using inside
  obtain ⟨cells, looked⟩ := rowsOf_matrix matrix single
  unfold handOn
  rw [looked]
  rfl

end TransitionTable

namespace EngineSettings

variable {settings : EngineSettings} {table : TransitionTable} {request : PrefillRequest Prefilled}
  {last : UInt32}

/-- Under a coherent prompt only its new tokens are counted against the limit. -/
theorem prefill_coherent (coherent : request.Coherent) (ends : request.context.getLast? = some last) :
    settings.prefill table request =
      if settings.maxPrefillLength < request.newTokens then
        .error (.promptTooLong request.newTokens settings.maxPrefillLength)
      else table.handOn request.sampler request.requestId request.context last := by
  unfold prefill scoreRequest
  rw [coherent.validate_eq, coherent.contextOf_eq]
  split
  next => rfl
  next =>
    simp only [bind, Except.bind, ends, TransitionTable.handOn]
    cases table.rowsOf [last] <;> rfl

inductive Returns (settings : EngineSettings) (start : Prefilled) : Prop
  | prefill {table : TransitionTable} {request : PrefillRequest Prefilled} {first : ResultBuffer}
      (ok : settings.prefill table request = .ok (start, first))
  | prefillMany {table : TransitionTable} {request : PrefillRequest Prefilled} {seed : Option UInt64}
      {count : Nat} {first : ResultBuffer}
      (ok : settings.prefillMany table request seed count = .ok (start, first))

def passes (settings : EngineSettings) (table : TransitionTable) (request : PrefillRequest Prefilled)
    (check : Prefilled → Bool) : Bool :=
  match settings.prefill table request with
  | .ok answer => check answer.1
  | .error _ => false

theorem returns_of_passes {settings : EngineSettings} {table : TransitionTable} {request : PrefillRequest Prefilled}
    {check : Prefilled → Bool} (passed : settings.passes table request check = true) :
    ∃ start, settings.Returns start ∧ check start = true := by
  unfold passes at passed
  split at passed
  next answer ok => exact ⟨answer.1, .prefill ok, passed⟩
  next => cases passed

theorem tokenLogProbs_length {scores : Tensor} {tokens : List UInt32} {logProbs : List Float32}
    (rows : scores.shape[0]? = some tokens.length) (ok : Sampling.tokenLogProbs scores tokens = .ok logProbs) :
    logProbs.length = tokens.length := by
  obtain ⟨table, read, ok⟩ := except_links ok
  cases ok
  obtain ⟨shape, cells⟩ := scores
  match shape, read with
  | [height, width], read =>
    obtain rfl := Except.ok.inj read
    rw [List.length_zipWith, length_pieces, Option.some.inj rows, Nat.min_self]

theorem firstTokens_length {scores : Tensor} {vocabSize count : Nat} {sampler : Option Sampler}
    {seed : Option UInt64} {tokens : List UInt32} {logProbs : List Float32}
    (ok : settings.firstTokens scores vocabSize sampler seed count = .ok (tokens, logProbs)) :
    logProbs.length = tokens.length := by
  unfold firstTokens at ok
  cases sampler with
  | some sampler =>
    dsimp only at ok
    split at ok
    next => cases ok
    next =>
      obtain ⟨batch, _, ok⟩ := except_links ok
      obtain ⟨chosen, picked, ok⟩ := except_links ok
      obtain ⟨scored, scoring, ok⟩ := except_links ok
      cases ok
      exact tokenLogProbs_length (TransitionTable.pickTokens_length picked) (ofTensor_success scoring)
  | none =>
    obtain ⟨_, _, ok⟩ := except_links ok
    obtain ⟨_, _, ok⟩ := except_links ok
    obtain ⟨⟨draws, _⟩, _, ok⟩ := except_links ok
    cases ok
    rw [List.length_map, List.length_map]

theorem scoreRequest_context {context : List UInt32} {scores : Tensor}
    (ok : settings.scoreRequest table request = .ok (context, scores)) :
    contextOf request = .ok context ∧ ∃ last, context.getLast? = some last ∧ table.rowsOf [last] = .ok scores := by
  obtain ⟨_, _, ok⟩ := except_links ok
  obtain ⟨found, contextual, ok⟩ := except_links ok
  split at ok
  next => cases ok
  next last ends =>
    obtain ⟨_, looked, ok⟩ := except_links ok
    cases ok
    exact ⟨contextual, last, ends, looked⟩

theorem prefill_handOn {found : Prefilled × ResultBuffer} (ok : settings.prefill table request = .ok found) :
    ∃ context last, contextOf request = .ok context ∧ context.getLast? = some last ∧
      table.handOn request.sampler request.requestId context last = .ok found := by
  obtain ⟨⟨context, scores⟩, scored, handed⟩ := except_links ok
  obtain ⟨contextual, last, ends, looked⟩ := scoreRequest_context scored
  refine ⟨context, last, contextual, ends, ?_⟩
  rw [TransitionTable.handOn, looked]
  exact handed

theorem prefillMany_links {seed : Option UInt64} {count : Nat} {start : Prefilled} {first : ResultBuffer}
    (ok : settings.prefillMany table request seed count = .ok (start, first)) :
    (∃ scores, settings.scoreRequest table request = .ok (start.context, scores)) ∧
      start.logProbs.length = start.firstTokens.length := by
  unfold prefillMany at ok
  split at ok
  next => cases ok
  next =>
    obtain ⟨⟨context, scores⟩, scored, ok⟩ := except_links ok
    obtain ⟨⟨tokens, logProbs⟩, drawn, ok⟩ := except_links ok
    obtain ⟨_, _, ok⟩ := except_links ok
    cases ok
    exact ⟨⟨scores, scored⟩, firstTokens_length drawn⟩

theorem Returns.scored {start : Prefilled} (returns : settings.Returns start) :
    start.context ≠ [] ∧ start.logProbs.length = start.firstTokens.length := by
  have nonempty {context : List UInt32} {last : UInt32} (ends : context.getLast? = some last) : context ≠ [] := by
    rintro rfl
    cases ends
  cases returns with
  | prefill ok =>
    obtain ⟨context, last, -, ends, handed⟩ := prefill_handOn ok
    obtain ⟨_, token, logProb, -, rfl, -⟩ := TransitionTable.handOn_success handed
    exact ⟨nonempty ends, rfl⟩
  | prefillMany ok =>
    obtain ⟨⟨scores, scored⟩, sized⟩ := prefillMany_links ok
    obtain ⟨-, last, ends, -⟩ := scoreRequest_context scored
    exact ⟨nonempty ends, sized⟩

def Covered (carried : Option (Carried Prefilled)) : Prop :=
  ∀ entry ∈ carried, entry.cache.context.length = entry.length

theorem contextOf_length {tokens : List UInt32} (padded : request.padded = .ofTokens tokens)
    (covered : Covered request.carried) {context : List UInt32} (ok : contextOf request = .ok context) :
    context.length = request.trueLength ∧ request.trueLength ≤ tokens.length := by
  obtain ⟨lead, narrowed, contextual⟩ := except_links ok
  have cut := ofTensor_success narrowed
  rw [padded, Tensor.flatten_ofTokens] at cut
  obtain ⟨fits, rfl⟩ := Tensor.narrow_ofTokens cut
  have size : (tokens.take request.trueLength).length = request.trueLength := List.length_take_of_le fits
  refine ⟨?_, fits⟩
  cases carrying : request.carried with
  | none =>
    rw [carrying] at contextual
    cases contextual
    exact size
  | some carried =>
    rw [carrying] at contextual
    dsimp only at contextual
    split at contextual
    next => cases contextual
    next enough =>
      cases contextual
      have covers : carried.cache.context.length = carried.length := covered carried carrying
      change (carried.cache.context ++ (tokens.take request.trueLength).drop carried.length).length = _
      have enough : ¬ (tokens.take request.trueLength).length < carried.length := enough
      rw [List.length_append, List.length_drop, covers]
      omega

theorem prefill_contextOf {found : Prefilled × ResultBuffer} (ok : settings.prefill table request = .ok found) :
    contextOf request = .ok found.1.context := by
  obtain ⟨context, last, contextual, -, handed⟩ := prefill_handOn ok
  rw [contextual, TransitionTable.handOn_context handed]

theorem prefillMany_contextOf {seed : Option UInt64} {count : Nat}
    {start : Prefilled} {first : ResultBuffer} (ok : settings.prefillMany table request seed count = .ok (start, first)) :
    contextOf request = .ok start.context := by
  obtain ⟨⟨scores, scored⟩, -⟩ := prefillMany_links ok
  exact (scoreRequest_context scored).1

end EngineSettings

end SlotServe
