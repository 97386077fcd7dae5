import SlotServe.Proofs.Engine.Capacity

/-! Proper ends. A call that fails does so for a cause that is no defect: what it checks first keeps every
index inside its list and every sum inside the machine word, whatever else it was given. -/
namespace SlotServe

variable {σ α β : Type}

/-- An ordinary answer to a bad request or to a full cache. -/
def Fault.Proper (fault : Fault) : Prop := ∀ cause, fault ≠ .defect cause

theorem Fault.proper_layout (cause : LayoutFault) : (Fault.layout cause).Proper := nofun

def Proper (result : Except Fault α) : Prop := ∀ fault, result = .error fault → fault.Proper

theorem proper_ok (value : α) : Proper (.ok value) := nofun

theorem proper_error {fault : Fault} (proper : fault.Proper) : Proper (.error fault : Except Fault α) := by
  rintro _ ⟨⟩
  exact proper

theorem proper_bind {first : Except Fault α} {next : α → Except Fault β} (proper : Proper first)
    (rest : ∀ value, first = .ok value → Proper (next value)) : Proper (first >>= next) := by
  cases first with
  | ok value => exact rest value rfl
  | error fault => exact proper_error (proper fault rfl)

theorem proper_ofTensor (result : Except TensorFault α) : Proper (ofTensor result) := by
  cases result with
  | ok value => exact proper_ok value
  | error cause => exact proper_error nofun

theorem ends_answer {Holds : σ → Prop} {result : Except Fault α} (proper : Proper result) {state : σ}
    (holds : Holds state) : Ends Holds Fault.Proper (answer result state) := by
  cases result with
  | ok value => exact holds
  | error fault => exact proper fault rfl

theorem checkSlot_proper (numSlots slot : Nat) : Proper (checkSlot numSlots slot) := by
  unfold checkSlot
  split
  · exact proper_ok ()
  · exact proper_error nofun

theorem checkSlots_proper (numSlots : Nat) (slots : List Nat) : Proper (checkSlots numSlots slots) := by
  unfold checkSlots
  generalize [] = seen
  induction slots generalizing seen with
  | nil => exact proper_ok ()
  | cons slot rest ih =>
    unfold checkSlotsAfter
    split
    · exact proper_error nofun
    · split
      · exact proper_error nofun
      · exact ih _

namespace ResultBuffer

theorem ofData_proper (data : Tensor) (tokensAt validAt lengthAt : ColumnRange) (samplesPerSlot : Nat) :
    Proper (ofData data tokensAt validAt lengthAt samplesPerSlot) := by
  unfold ofData
  split
  · split
    · exact proper_error (Fault.proper_layout _)
    · exact proper_ok _
  · exact proper_error (Fault.proper_layout _)

theorem withLogProb_proper (buffer : ResultBuffer) (logProb : Tensor) : Proper (buffer.withLogProb logProb) := by
  refine proper_bind (proper_ofTensor _) fun rows _ => ?_
  dsimp only
  split
  · exact proper_error (Fault.proper_layout _)
  · exact proper_ok _

theorem logProbCells_proper (width : Nat) (samples : List RowSample) : Proper (logProbCells width samples) := by
  induction samples with
  | nil => exact proper_ok []
  | cons sample rest ih =>
    unfold logProbCells
    dsimp only
    split
    · exact proper_error (Fault.proper_layout _)
    · exact proper_bind ih fun _ _ => proper_ok _

/-- Samples that do not pack are refused. -/
theorem ofSamples_proper (samples : List RowSample) (samplesPerSlot : Nat) :
    Proper (ofSamples samples samplesPerSlot) := by
  unfold ofSamples
  dsimp only
  split
  · exact proper_error (Fault.proper_layout _)
  · refine proper_bind (ofData_proper _ _ _ _ _) fun buffer _ => ?_
    split
    · exact proper_ok buffer
    · split
      · exact proper_error nofun
      · exact proper_bind (logProbCells_proper _ _) fun _ _ => withLogProb_proper _ _

end ResultBuffer

namespace TransitionTable

theorem rowsOf_proper (table : TransitionTable) (tokens : List UInt32) : Proper (table.rowsOf tokens) := by
  unfold rowsOf
  split
  · exact proper_error nofun
  · exact proper_ofTensor _

theorem rowsOf_type {table : TransitionTable} {tokens : List UInt32} {scores : Tensor}
    (ok : table.rowsOf tokens = .ok scores) : scores.type = table.scores.type := by
  unfold rowsOf at ok
  split at ok
  next => cases ok
  next =>
    have selected := ofTensor_success ok
    unfold Tensor.selectRows at selected
    split at selected
    next => cases selected
    next =>
      split at selected
      next =>
        cases selected
        cases cells : table.scores.cells <;> simp [Tensor.type, Cells.rearrange, Cells.type, cells]
      next => cases selected

/-- The scores of so many samples can be allocated, and so can their draws, which take 8 bytes each. -/
def Allocates (table : TransitionTable) (count : Nat) : Prop :=
  Size.addressable (volume [count, table.vocabSize]) table.scores.type.bytes = true ∧
    Size.addressable count 8 = true

end TransitionTable

theorem pickTokens_proper (scores : Tensor) (sampler : Option Sampler) : Proper (pickTokens scores sampler) := by
  refine proper_bind (proper_ofTensor _) fun rows _ => proper_bind (proper_ofTensor _) fun chosen _ => ?_
  dsimp only
  split
  · exact proper_error (Fault.proper_layout _)
  · exact proper_ok _

namespace Tensor

variable {tensor : Tensor}

theorem Fits.length_tokens (fits : tensor.Fits) : tensor.tokens.length = tensor.numCells :=
  (Cells.length_toU32 tensor.cells).trans fits

/-- The first cells of a tensor that has all its cells are as many as were asked for. -/
theorem Fits.narrow (fits : tensor.Fits) {count : Nat} {lead : Tensor}
    (cut : tensor.flatten.narrow 0 0 count = .ok lead) :
    count ≤ tensor.numCells ∧ lead.Fits ∧ lead.numCells = count := by
  have vector : tensor.flatten.shape = [tensor.flatten.tokens.length] :=
    congrArg (fun size => [size]) fits.length_tokens.symm
  by_cases inside : count ≤ tensor.numCells
  · obtain ⟨found, narrowed, shape, tokens⟩ := narrow_vector vector (inside.trans_eq fits.length_tokens.symm)
    obtain rfl := Except.ok.inj (narrowed.symm.trans cut)
    have size : found.numCells = count := by simp [numCells, shape, volume]
    refine ⟨inside, ?_, size⟩
    refine (Cells.length_toU32 found.cells).symm.trans (Eq.trans ?_ size.symm)
    exact (congrArg List.length tokens).trans (List.length_take_of_le (inside.trans_eq fits.length_tokens.symm))
  · have beyond : volume tensor.shape < count := Nat.not_le.mp inside
    simp [Tensor.narrow, flatten, beyond] at cut

end Tensor

theorem Carried.checkLeads_proper {P : Type} (carried : Carried P) (padded : Tensor) (trueLength : Nat) :
    Proper (carried.checkLeads padded trueLength) := by
  unfold checkLeads
  dsimp only
  split
  · exact proper_error nofun
  · split
    · exact proper_error nofun
    · split
      · exact proper_error nofun
      · exact proper_ok ()

namespace PrefillRequest

variable {P : Type}

theorem checkCarried_proper (request : PrefillRequest P) : Proper request.checkCarried := by
  unfold checkCarried
  split
  · exact proper_ok ()
  · exact Carried.checkLeads_proper _ _ _

theorem validate_proper (request : PrefillRequest P) (limit : Nat) : Proper (request.validate limit) := by
  unfold validate
  dsimp only
  split
  · exact proper_error nofun
  · refine proper_bind request.checkCarried_proper fun _ _ => ?_
    split
    · exact proper_error nofun
    · split
      · exact proper_error nofun
      · exact proper_ok ()

/-- The slice behind the carried tokens starts inside the prompt. -/
theorem contextOf_proper {request : PrefillRequest Prefilled} (fits : request.padded.Fits)
    (shorter : request.carriedLength < request.trueLength) : Proper (contextOf request) := by
  refine proper_bind (proper_ofTensor _) fun lead narrowed => ?_
  obtain ⟨-, leadFits, size⟩ := fits.narrow (ofTensor_success narrowed)
  have length := leadFits.length_tokens
  cases carrying : request.carried with
  | none => exact proper_ok _
  | some carried =>
    rw [carriedLength_some carrying] at shorter
    dsimp only
    rw [if_neg (by omega)]
    exact proper_ok _

end PrefillRequest

namespace EngineSettings

variable {settings : EngineSettings} {table : TransitionTable} {request : PrefillRequest Prefilled}

section

variable (fits : request.padded.Fits)

include fits

theorem scoreRequest_proper : Proper (settings.scoreRequest table request) := by
  refine proper_bind (request.validate_proper _) fun _ valid => ?_
  have shorter := PrefillRequest.validate_success valid
  refine proper_bind (PrefillRequest.contextOf_proper fits shorter) fun context _ => ?_
  split
  · exact proper_error nofun
  · exact proper_bind (table.rowsOf_proper _) fun _ _ => proper_ok _

theorem prefill_proper : Proper (settings.prefill table request) := by
  refine proper_bind (scoreRequest_proper fits) fun found scored => ?_
  obtain ⟨context, scores⟩ := found
  obtain ⟨-, last, -, looked⟩ := scoreRequest_context scored
  obtain ⟨rest, -, shape⟩ := TransitionTable.rowsOf_shape looked
  refine proper_bind (pickTokens_proper scores _) fun tokens picked => ?_
  -- There is one row of scores, so that the tokens that passed the check are not none.
  have single := TransitionTable.pickTokens_length picked
  rw [shape] at single
  obtain ⟨first, rfl⟩ := List.length_eq_one_iff.mp (Option.some.inj single).symm
  refine proper_bind (proper_ofTensor _) fun logProbs _ => ?_
  exact proper_bind (ResultBuffer.ofSamples_proper _ _) fun _ _ => proper_ok _

end

theorem firstTokens_proper {scores : Tensor} {count : Nat} (sampler : Option Sampler) (seed : Option UInt64)
    (type : scores.type = table.scores.type) (allocates : table.Allocates count) :
    Proper (settings.firstTokens scores table.vocabSize sampler seed count) := by
  obtain ⟨batch, draws⟩ := allocates
  unfold firstTokens
  cases sampler with
  | some sampler =>
    dsimp only
    rw [type, batch, Bool.not_true, Bool.and_false, if_neg Bool.false_ne_true]
    refine proper_bind (proper_ofTensor _) fun batch _ => proper_bind (pickTokens_proper _ _) fun tokens _ => ?_
    exact proper_bind (proper_ofTensor _) fun _ _ => proper_ok _
  | none =>
    refine proper_bind (proper_ofTensor _) fun _ _ => proper_bind (proper_ofTensor _) fun row _ => ?_
    simp only [Sampling.Candidates.draws, if_pos draws]
    exact proper_ok _

theorem prefillMany_proper (fits : request.padded.Fits) (seed : Option UInt64) {count : Nat}
    (allocates : table.Allocates count) : Proper (settings.prefillMany table request seed count) := by
  unfold prefillMany
  split
  · exact proper_error nofun
  · refine proper_bind (scoreRequest_proper fits) fun found scored => ?_
    obtain ⟨context, scores⟩ := found
    obtain ⟨-, last, -, looked⟩ := scoreRequest_context scored
    have type := TransitionTable.rowsOf_type looked
    refine proper_bind (firstTokens_proper _ _ type allocates) fun _ _ => ?_
    exact proper_bind (ResultBuffer.ofSamples_proper _ _) fun _ _ => proper_ok _

end EngineSettings

namespace Executor

variable {M P S V : Type} {executor : Executor σ M P S V} {model : M} {request : PrefillRequest P}
  {Holds : σ → Prop} (once : ∀ {request : PrefillRequest P}, request.padded.Fits → ∀ engine, Holds engine →
    Ends Holds Fault.Proper (executor.prefill model request engine))
  (fits : request.padded.Fits)

include once fits

/-- Each piece of a prompt has all its cells, since the prompt has. -/
theorem prefillPieces_proper (carried : Option (Carried P)) (stops : List Nat) {engine : σ} (holds : Holds engine) :
    Ends Holds Fault.Proper (executor.prefillPieces model request request.padded.flatten carried stops engine) := by
  induction stops generalizing carried engine with
  | nil => exact nofun
  | cons stop rest ih =>
    refine ends_bind (ends_answer (proper_ofTensor _) holds) fun lead _ narrowed holds => ?_
    obtain ⟨-, leadFits, -⟩ := fits.narrow (ofTensor_success (answer_success narrowed).1)
    refine ends_bind (once leadFits _ holds) fun found _ _ holds => ?_
    cases rest with
    | nil => exact holds
    | cons next rest => exact ih _ holds

theorem prefillChunked_proper {engine : σ} (holds : Holds engine) :
    Ends Holds Fault.Proper (executor.prefillChunked model request engine) := by
  unfold prefillChunked
  dsimp only
  split
  · exact once fits engine holds
  · split
    · exact nofun
    · exact ends_bind (ends_answer request.checkCarried_proper holds) fun _ _ _ holds =>
        prefillPieces_proper once fits _ _ holds

end Executor

end SlotServe
