import SlotServe.Proofs.Engine.PromptContext

/-! Prefill of one prompt at once and in chunks. Each chunk extends the context by the tokens up to its
end, so that the last chunk answers what a single call would. -/
namespace SlotServe

/-- The first chunk ends after `chunk` tokens or with the prompt, and the others go on from there. -/
theorem chunkEnds_step {start chunk stop : Nat} (more : start < stop) (size : 0 < chunk) :
    chunkEnds start chunk stop = min (start + chunk) stop :: chunkEnds (min (start + chunk) stop) chunk stop := by
  have split : Size.groups (stop - start) chunk = Size.groups (stop - min (start + chunk) stop) chunk + 1 := by
    by_cases last : stop ≤ start + chunk
    · rw [Nat.min_eq_right last, Nat.sub_self, Size.groups_zero, Size.groups]
      exact Nat.div_eq_of_lt_le (by omega) (by omega)
    · rw [Nat.min_eq_left (by omega), Size.groups, Size.groups, ← Nat.add_div_right _ size]
      congr 1
      omega
  unfold chunkEnds
  rw [split, List.range_succ_eq_map, List.map_cons, List.map_map]
  congr 1
  · rw [Nat.zero_add, Nat.one_mul]
  · apply List.map_congr_left
    intro index _
    have further : (index + 1 + 1) * chunk = (index + 1) * chunk + chunk := Nat.succ_mul (index + 1) chunk
    simp only [Function.comp, Nat.succ_eq_add_one, further]
    generalize (index + 1) * chunk = reach
    by_cases last : stop ≤ start + chunk
    · rw [Nat.min_eq_right last, Nat.min_eq_right (by omega), Nat.min_eq_right (by omega)]
    · rw [Nat.min_eq_left (Nat.le_of_not_le last)]
      congr 1
      omega

theorem chunkEnds_empty (stop chunk : Nat) : chunkEnds stop chunk stop = [] := by
  rw [chunkEnds, Nat.sub_self, Size.groups_zero]
  rfl

namespace EngineSettings

variable {settings : EngineSettings} {table : TransitionTable} {request : PrefillRequest Prefilled}
  {last : UInt32}

theorem piece_prompt {lead : Tensor} {stop : Nat} {sampler : Option Sampler}
    (tokens : lead.tokens = request.padded.tokens.take stop) :
    (request.piece lead stop sampler).prompt = request.padded.tokens.take stop := by
  change lead.tokens.take stop = _
  rw [tokens, List.take_take, Nat.min_self]

theorem context_carryOn (coherent : request.Coherent) {lead : Tensor} {stop : Nat} {start : Prefilled}
    (more : request.carriedLength < stop) (inside : stop < request.trueLength) (sampler : Option Sampler)
    (tokens : lead.tokens = request.padded.tokens.take stop) (shape : lead.shape = [stop])
    (same : start.context = (request.piece lead stop sampler).context) :
    (request.carrying (some ⟨start, lead⟩)).context = request.context := by
  have reaches := coherent.reaches
  have length := (coherent.carryOn shape tokens inside start).2
  have cut : (request.piece lead stop sampler).prompt = request.prompt.take stop := by
    rw [piece_prompt tokens, PrefillRequest.prompt, List.take_take, Nat.min_eq_left (by omega)]
  have split : request.prompt.drop request.carriedLength =
      (request.prompt.take stop).drop request.carriedLength ++ request.prompt.drop stop := by
    conv_lhs => rw [← List.take_append_drop stop request.prompt]
    rw [List.drop_append_of_le_length]
    rw [List.length_take_of_le (by rw [coherent.length_prompt]; omega)]
    omega
  rw [PrefillRequest.context, length]
  change start.context ++ request.prompt.drop stop = _
  rw [same, PrefillRequest.context, PrefillRequest.context, cut, split, List.append_assoc]
  rfl

theorem prefill_piece (settings : EngineSettings) (table : TransitionTable) (coherent : request.Coherent)
    {lead : Tensor} {stop : Nat} (shape : lead.shape = [stop])
    (tokens : lead.tokens = request.padded.tokens.take stop) (more : request.carriedLength < stop)
    (inside : stop ≤ request.trueLength) (fits : stop - request.carriedLength ≤ settings.maxPrefillLength)
    (sampler : Option Sampler) :
    ∃ token ∈ request.prompt, (request.piece lead stop sampler).context.getLast? = some token ∧
      settings.prefill table (request.piece lead stop sampler) =
        table.handOn sampler request.requestId (request.piece lead stop sampler).context token := by
  have piece := coherent.piece shape tokens more inside sampler
  obtain ⟨token, member, ends⟩ := piece.last_context
  have part : (request.piece lead stop sampler).prompt <+: request.prompt := by
    rw [piece_prompt tokens]
    exact List.take_prefix_take_left inside
  refine ⟨token, part.subset member, ends, ?_⟩
  have short : ¬ settings.maxPrefillLength < (request.piece lead stop sampler).newTokens := Nat.not_lt.mpr fits
  rw [prefill_coherent piece ends, if_neg short]
  rfl

variable {V : Type} (build : VocabularySource → Except Fault V)

/-- The pieces answer what one call answers, as long as every piece is within the limit and every
token of the prompt can be followed. -/
theorem prefillPieces_eq {chunk : Nat} (size : 0 < chunk) (fits : chunk ≤ settings.maxPrefillLength)
    (followed : ∀ token ∈ request.prompt, ∀ context,
      ∃ answer, table.handOn none request.requestId context token = .ok answer)
    (stops : List Nat) (carried : Option (Carried Prefilled)) (coherent : (request.carrying carried).Coherent)
    (ahead : chunkEnds (request.carrying carried).carriedLength chunk request.trueLength = stops)
    (ends : (request.carrying carried).context.getLast? = some last) (engine : SlotBlocks) :
    (settings.executor build).prefillPieces table request request.padded carried stops engine =
      answer (table.handOn request.sampler request.requestId (request.carrying carried).context last) engine := by
  -- The induction is on the chunk ends that are left; what is carried covers the prompt up to the last one.
  induction stops generalizing carried with
  | nil =>
    have shorter : (request.carrying carried).carriedLength < request.trueLength := coherent.shorter
    rw [chunkEnds_step shorter size] at ahead
    cases ahead
  | cons stop rest ih =>
    have shorter : (request.carrying carried).carriedLength < request.trueLength := coherent.shorter
    have reaches : request.trueLength ≤ request.padded.tokens.length := coherent.reaches
    rw [chunkEnds_step shorter size] at ahead
    obtain ⟨reached, ahead⟩ := List.cons.inj ahead
    rw [reached] at ahead
    have inside : stop ≤ request.trueLength := by omega
    have more : (request.carrying carried).carriedLength < stop := by omega
    obtain ⟨lead, cut, shape, tokens⟩ := Tensor.narrow_vector coherent.vector (inside.trans reaches)
    have narrowed : request.padded.narrow 0 0 stop = .ok lead := cut
    have computed := prefill_piece settings table coherent shape tokens more inside (by omega)
    unfold Executor.prefillPieces
    rw [narrowed]
    by_cases whole : stop = request.trueLength
    · rw [whole, chunkEnds_empty] at ahead
      subst ahead
      obtain ⟨token, -, final, prefilled⟩ := computed request.sampler
      have same : ((request.carrying carried).piece lead stop request.sampler).context =
          (request.carrying carried).context := by
        rw [PrefillRequest.context, PrefillRequest.context, piece_prompt tokens, whole]
        rfl
      rw [same] at final prefilled
      obtain rfl := Option.some.inj (final.symm.trans ends)
      change ((answer (settings.prefill table ((request.carrying carried).piece lead stop request.sampler)) >>=
        fun computed => pure computed) : EStateM Fault SlotBlocks _) engine = _
      rw [prefilled, bind_pure]
      rfl
    · have inside : stop < request.trueLength := by omega
      rw [chunkEnds_step inside size] at ahead
      subst ahead
      obtain ⟨token, member, -, prefilled⟩ := computed none
      obtain ⟨⟨start, buffer⟩, followed⟩ := followed token member _
      have same : start.context = ((request.carrying carried).piece lead stop none).context :=
        TransitionTable.handOn_context followed
      obtain ⟨further, length⟩ := coherent.carryOn shape tokens inside start
      have unchanged := context_carryOn coherent more inside none tokens shape same
      rw [PrefillRequest.carrying_carrying] at length unchanged
      have going := ih (some ⟨start, lead⟩) further (by rw [length, chunkEnds_step inside size])
        (by rw [unchanged]; exact ends)
      rw [unchanged] at going
      change ((answer (settings.prefill table ((request.carrying carried).piece lead stop none)) >>=
        fun computed => (settings.executor build).prefillPieces table request request.padded
          (some ⟨computed.1, lead⟩) _) : EStateM Fault SlotBlocks _) engine = _
      rw [prefilled.trans followed]
      exact going

/-- A prompt of more than one piece is refused with its first piece when no token of it can be followed. -/
theorem prefillPieces_refused {chunk : Nat} (size : 0 < chunk) (fits : chunk ≤ settings.maxPrefillLength)
    (coherent : request.Coherent) (long : chunk < request.newTokens) {fault : Fault}
    (refused : ∀ token ∈ request.prompt, ∀ context,
      table.handOn none request.requestId context token = .error fault) (engine : SlotBlocks) :
    (settings.executor build).prefillPieces table request request.padded request.carried
      (chunkEnds request.carriedLength chunk request.trueLength) engine = .error fault engine := by
  have reaches := coherent.reaches
  have further : request.carriedLength + chunk < request.trueLength := by
    unfold PrefillRequest.newTokens at long
    omega
  rw [chunkEnds_step coherent.shorter size, Nat.min_eq_left further.le, chunkEnds_step further size]
  obtain ⟨lead, cut, shape, tokens⟩ := Tensor.narrow_vector coherent.vector (further.le.trans reaches)
  obtain ⟨token, member, -, prefilled⟩ :=
    prefill_piece settings table coherent shape tokens (by omega) further.le (by omega) none
  unfold Executor.prefillPieces
  rw [cut]
  change ((answer (settings.prefill table (request.piece lead (request.carriedLength + chunk) none)) >>= fun computed =>
    (settings.executor build).prefillPieces table request request.padded (some ⟨computed.1, lead⟩) _) :
      EStateM Fault SlotBlocks _) engine = _
  rw [prefilled, refused token member]
  rfl

theorem prefillChunked_short (fits : settings.prefillChunkSize ≤ settings.maxPrefillLength)
    (coherent : request.Coherent) (ends : request.context.getLast? = some last)
    (short : request.newTokens ≤ settings.prefillChunkSize) (engine : SlotBlocks) :
    (settings.executor build).prefillChunked table request engine =
      answer (table.handOn request.sampler request.requestId request.context last) engine := by
  unfold Executor.prefillChunked
  have whole : (!(settings.executor build).limits.useChunkedPrefill ||
      decide ((settings.executor build).limits.prefillChunkSize = 0) ||
        decide (request.newTokens ≤ (settings.executor build).limits.prefillChunkSize)) = true := by
    rw [Bool.or_eq_true, decide_eq_true_iff]
    exact .inr short
  rw [if_pos whole]
  change answer (settings.prefill table request) engine = _
  rw [prefill_coherent coherent ends, if_neg (by omega)]

theorem prefillChunked_long (chunking : settings.useChunkedPrefill = true) (size : 0 < settings.prefillChunkSize)
    (coherent : request.Coherent) (long : settings.prefillChunkSize < request.newTokens) (engine : SlotBlocks) :
    (settings.executor build).prefillChunked table request engine =
      (settings.executor build).prefillPieces table request request.padded request.carried
        (chunkEnds request.carriedLength settings.prefillChunkSize request.trueLength) engine := by
  have reaches := coherent.reaches
  unfold Executor.prefillChunked
  have splits : ¬ (!(settings.executor build).limits.useChunkedPrefill ||
      decide ((settings.executor build).limits.prefillChunkSize = 0) ||
        decide (request.newTokens ≤ (settings.executor build).limits.prefillChunkSize)) = true := by
    simp only [executor, limits, chunking, Bool.not_true, Bool.false_or, Bool.or_eq_true, decide_eq_true_iff]
    omega
  rw [if_neg splits, coherent.paddedLength_eq, if_neg (by omega), coherent.checkCarried_ok,
    Tensor.flatten_vector coherent.vector]
  rfl

theorem prefillChunked_eq (chunking : settings.useChunkedPrefill = true) (size : 0 < settings.prefillChunkSize)
    (fits : settings.prefillChunkSize ≤ settings.maxPrefillLength) (coherent : request.Coherent)
    (ends : request.context.getLast? = some last)
    (followed : ∀ token ∈ request.prompt, ∀ context,
      ∃ answer, table.handOn none request.requestId context token = .ok answer) (engine : SlotBlocks) :
    (settings.executor build).prefillChunked table request engine =
      answer (table.handOn request.sampler request.requestId request.context last) engine := by
  rcases Nat.lt_or_ge settings.prefillChunkSize request.newTokens with long | short
  · exact (prefillChunked_long build chunking size coherent long engine).trans
      (prefillPieces_eq build size fits followed _ request.carried coherent rfl ends engine)
  · exact prefillChunked_short build fits coherent ends short engine

theorem prefillChunked_matrix {engine after : SlotBlocks} {found : Prefilled × ResultBuffer}
    (ok : (settings.executor build).prefillChunked table request engine = .ok found after) :
    ∃ width, table.Matrix width := by
  have called : ∃ piece between, (settings.executor build).prefill table piece between = .ok found after := by
    unfold Executor.prefillChunked at ok
    dsimp only at ok
    split at ok
    next => exact ⟨request, engine, ok⟩
    next =>
      split at ok
      next => cases ok
      next =>
        obtain ⟨_, _, _, ok⟩ := bind_links ok
        obtain ⟨piece, between, computed, -⟩ := Executor.prefillPieces_success ok
        exact ⟨piece, between, computed⟩
  obtain ⟨piece, between, computed⟩ := called
  obtain ⟨context, last, -, -, handed⟩ := prefill_handOn (answer_success computed).1
  obtain ⟨width, _, _, matrix, -, -⟩ := TransitionTable.handOn_success handed
  exact ⟨width, matrix⟩

def prefilling (settings : EngineSettings) (useChunkedPrefill : Bool) (prefillChunkSize maxPrefillLength : Nat) :
    EngineSettings :=
  { settings with useChunkedPrefill, prefillChunkSize, maxPrefillLength }

/-- A chunk before the last has to choose among no scores, where the sampler of the prompt would choose without. -/
structure Starved (settings : EngineSettings) (table : TransitionTable) (request : PrefillRequest Prefilled) :
    Prop where
  columns : table.Matrix 0
  sampled : request.sampler ≠ none
  long : settings.prefillChunkSize < request.newTokens

theorem prefillChunked_empty (chunking : settings.useChunkedPrefill = true) (positive : 1 ≤ settings.prefillChunkSize)
    (fits : settings.prefillChunkSize ≤ settings.maxPrefillLength) (coherent : request.Coherent)
    (inside : ∀ token ∈ request.prompt, token.toNat < table.vocabSize) (columns : table.Matrix 0)
    (long : settings.prefillChunkSize < request.newTokens) (engine : SlotBlocks) :
    (settings.executor build).prefillChunked table request engine = .error (.tensor .empty) engine :=
  (prefillChunked_long build chunking positive coherent long engine).trans
    (prefillPieces_refused build positive fits coherent long
      (fun token member context => table.handOn_empty columns (inside token member) _ context) engine)

theorem prefillChunked_fed (chunking : settings.useChunkedPrefill = true) (positive : 1 ≤ settings.prefillChunkSize)
    (fits : settings.prefillChunkSize ≤ settings.maxPrefillLength) (coherent : request.Coherent)
    (inside : ∀ token ∈ request.prompt, token.toNat < table.vocabSize) (fed : ¬ settings.Starved table request)
    {width : Nat} (matrix : table.Matrix width) (ends : request.context.getLast? = some last)
    (member : last ∈ request.prompt) (engine : SlotBlocks) :
    (settings.executor build).prefillChunked table request engine =
      answer (table.handOn request.sampler request.requestId request.context last) engine := by
  -- Only a table without columns keeps a chunk from being followed.
  rcases Nat.eq_zero_or_pos width with rfl | some
  · rcases Nat.lt_or_ge settings.prefillChunkSize request.newTokens with long | short
    · have greedy : request.sampler = none := by
        by_contra sampled
        exact fed ⟨matrix, sampled, long⟩
      rw [prefillChunked_empty build chunking positive fits coherent inside matrix long, greedy,
        table.handOn_empty matrix (inside last member)]
      rfl
    · exact prefillChunked_short build fits coherent ends short engine
  · exact prefillChunked_eq build chunking positive fits coherent ends
      (fun token member context => table.handOn_greedy matrix some (inside token member) _ context) engine

/-- Prefill in chunks answers what a single call answers under settings that admit the whole prompt, unless a chunk
has no scores to choose by: only the last chunk sees the sampler. -/
theorem chunked_prompt_as_one (settings : EngineSettings) (useChunkedPrefill : Bool)
    (prefillChunkSize maxPrefillLength : Nat) (table : TransitionTable) (request : PrefillRequest Prefilled)
    (engine other : SlotBlocks) (chunking : settings.useChunkedPrefill = true)
    (positive : 1 ≤ settings.prefillChunkSize) (fits : settings.prefillChunkSize ≤ settings.maxPrefillLength)
    (coherent : request.Coherent) (inside : ∀ token ∈ request.prompt, token.toNat < table.vocabSize)
    (admits : request.newTokens ≤ maxPrefillLength) :
    let whole := settings.prefilling useChunkedPrefill prefillChunkSize maxPrefillLength
    let pieces := (settings.executor build).prefillChunked table request engine
    let once := (whole.executor build).prefill table request other
    (settings.Starved table request → pieces = .error (.tensor .empty) engine) ∧
      (¬ settings.Starved table request →
        (∀ found, (∃ after, pieces = .ok found after) ↔ ∃ after, once = .ok found after) ∧
          ∀ width, table.Matrix width → ∃ result, pieces = answer result engine ∧ once = answer result other ∧
            (width ≠ 0 → request.sampler = none → ∃ found, result = .ok found)) := by
  intro whole pieces once
  obtain ⟨last, member, ends⟩ := coherent.last_context
  have single : once = answer (table.handOn request.sampler request.requestId request.context last) other := by
    have short : ¬ whole.maxPrefillLength < request.newTokens := Nat.not_lt.mpr admits
    change answer (whole.prefill table request) other = _
    rw [prefill_coherent coherent ends, if_neg short]
  refine ⟨fun starved => ?_, fun fed => ?_⟩
  · exact prefillChunked_empty build chunking positive fits coherent inside starved.columns starved.long engine
  by_cases shaped : ∃ width, table.Matrix width
  · obtain ⟨width, matrix⟩ := shaped
    have both : pieces = answer (table.handOn request.sampler request.requestId request.context last) engine :=
      prefillChunked_fed build chunking positive fits coherent inside fed matrix ends member engine
    constructor
    · intro found
      rw [both, single]
      cases table.handOn request.sampler request.requestId request.context last <;> simp [answer]
    · intro width matrix
      refine ⟨_, both, single, fun some greedy => ?_⟩
      rw [greedy]
      exact table.handOn_greedy matrix (Nat.pos_of_ne_zero some) (inside last member) _ _
  · -- No call answers over such a table, since it has no log probabilities to report.
    refine ⟨fun found => ⟨?_, ?_⟩, fun width matrix => absurd ⟨width, matrix⟩ shaped⟩
    · rintro ⟨after, ok⟩
      exact absurd (prefillChunked_matrix build ok) shaped
    · rintro ⟨after, ok⟩
      rw [single] at ok
      obtain ⟨width, _, _, matrix, -⟩ := TransitionTable.handOn_success (answer_success ok).1
      exact absurd ⟨width, matrix⟩ shaped

def pieced : EngineSettings :=
  { maxConcurrentDecodes := 2, useChunkedPrefill := true, prefillChunkSize := 2, maxPrefillLength := 2,
    vocabSize := 2, blockSize := 4, numBlocks := 2 }

/-- Six of seven tokens, the first of which is carried. The cache holds something else. -/
def resumedRequest : PrefillRequest Prefilled :=
  { padded := .ofTokens [0, 1, 0, 0, 1, 1, 0]
    trueLength := 6
    carried := some ⟨⟨[1, 1], [0], [0], none⟩, .ofTokens [0]⟩ }

theorem resumed_prompt_as_one :
    ∃ found, (pieced.executor fun _ => .ok ()).prefillChunked ⟨⟨[2, 2], .ofReals [0, 1, 1, 0]⟩⟩ resumedRequest
        (.fresh 4 2 2 1) = .ok found (.fresh 4 2 2 1) ∧
      ((pieced.prefilling false 256 5).executor fun _ => .ok ()).prefill ⟨⟨[2, 2], .ofReals [0, 1, 1, 0]⟩⟩
        resumedRequest (.fresh 4 2 2 1) = .ok found (.fresh 4 2 2 1) := by
  have coherent : resumedRequest.Coherent := by
    refine ⟨rfl, by decide, ?_, ?_, by decide⟩
    · rintro _ ⟨⟩
      rfl
    · rintro _ ⟨⟩
      decide
  have inside : ∀ token ∈ resumedRequest.prompt, token.toNat < 2 :=
    List.forall_mem_iff_forall_getElem.mpr (by decide)
  obtain ⟨-, fed⟩ := chunked_prompt_as_one (fun _ => .ok ()) pieced false 256 5
    ⟨⟨[2, 2], .ofReals [0, 1, 1, 0]⟩⟩ resumedRequest (.fresh 4 2 2 1) (.fresh 4 2 2 1) rfl (by decide) (by decide)
    coherent inside (by decide)
  obtain ⟨-, shaped⟩ := fed fun starved => absurd starved.columns (by unfold TransitionTable.Matrix; decide)
  obtain ⟨result, pieces, once, greedy⟩ := shaped 2 rfl
  obtain ⟨found, rfl⟩ := greedy (by decide) rfl
  exact ⟨found, pieces, once⟩

def sampledRequest : PrefillRequest Prefilled :=
  { padded := .ofTokens [0, 1, 1], trueLength := 3, sampler := some fun _ => .ok (.ofTokens [1]) }

/-- Over two rows of no scores a single call answers what the sampler chooses, and a chunk has no token to choose. -/
theorem starved_chunk_fails :
    let table : TransitionTable := ⟨⟨[2, 0], .f32 []⟩⟩
    sampledRequest.Coherent ∧ (∀ token ∈ sampledRequest.prompt, token.toNat < table.vocabSize) ∧
      (∃ found, ((pieced.prefilling false 2 5).executor fun _ => .ok ()).prefill table sampledRequest
        (.fresh 4 2 2 1) = .ok found (.fresh 4 2 2 1) ∧ found.1.firstTokens = [1]) ∧
      (pieced.executor fun _ => .ok ()).prefillChunked table sampledRequest (.fresh 4 2 2 1) =
        .error (.tensor .empty) (.fresh 4 2 2 1) := by
  intro table
  have coherent : sampledRequest.Coherent := by
    refine ⟨rfl, by decide, ?_, ?_, by decide⟩
    · rintro _ ⟨⟩
    · rintro _ ⟨⟩
  have looked : table.rowsOf [1] = .ok ⟨[1, 0], .f32 []⟩ := rfl
  have picked : pickTokens ⟨[1, 0], .f32 []⟩ sampledRequest.sampler = .ok [1] := rfl
  obtain ⟨logProb, handed⟩ := TransitionTable.handOn_picked looked picked none sampledRequest.context
  have whole : (pieced.prefilling false 2 5).prefill table sampledRequest = _ := prefill_coherent coherent rfl
  rw [if_neg (by decide)] at whole
  have once := congrArg (fun result => answer result (SlotBlocks.fresh 4 2 2 1)) (whole.trans handed)
  exact ⟨coherent, List.forall_mem_iff_forall_getElem.mpr (by decide), ⟨_, once, rfl⟩, by rfl⟩

end EngineSettings

end SlotServe
