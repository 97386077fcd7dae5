import SlotServe.Proofs.Result.RoundTrip

/-! Rows of one token that carry its log probability, the rows of every step and of every prefill. They
always pack, and the buffer holds the cells of each row in its place. -/
namespace SlotServe

structure RowSample.Single (sample : RowSample) : Prop where
  fills : sample.Fills 1
  scored : ∃ logProb, sample.logProb = some [logProb]

theorem RowSample.single_scored (token : UInt32) (valid : Bool) (length : Nat) (logProb : Float32) :
    ((RowSample.single token valid length).withLogProb [logProb]).Single :=
  ⟨⟨rfl, rfl⟩, logProb.toBits, rfl⟩

namespace ResultBuffer

def ofSingles (samples : List RowSample) (samplesPerSlot : Nat) : ResultBuffer :=
  { data := ⟨[samples.length, 3], .i64 (samples.map RowSample.cells).flatten⟩
    tokensAt := ⟨0, 1⟩
    validAt := ⟨1, 2⟩
    lengthAt := ⟨2, 3⟩
    samplesPerSlot
    logProb := some ⟨[samples.length, 1], .f32 (samples.map fun sample => sample.logProb.getD []).flatten⟩ }

variable {samples : List RowSample} (single : ∀ sample ∈ samples, sample.Single) {samplesPerSlot : Nat}

include single

theorem head_width : ((samples.head?).map (·.tokens.length)).getD 1 = 1 := by
  cases samples with
  | nil => rfl
  | cons first rest => exact (single first (by simp)).fills.tokens

theorem unevenRow_single : unevenRow 1 samples = none := by
  unfold unevenRow
  rw [Option.map_eq_none_iff, List.find?_eq_none]
  intro sample member
  have fills := (single sample member).fills
  simp [fills.tokens, fills.valid]

theorem logProbCells_single :
    logProbCells 1 samples = .ok (samples.map fun sample => sample.logProb.getD []).flatten := by
  induction samples with
  | nil => rfl
  | cons first rest ih =>
    obtain ⟨logProb, scored⟩ := (single first (by simp)).scored
    have following := ih fun sample member => single sample (List.mem_cons_of_mem first member)
    simp only [logProbCells, scored, following, List.map_cons, List.flatten_cons]
    rfl

theorem countP_scored : samples.countP (·.logProb.isSome) = samples.length := by
  rw [List.countP_eq_length]
  intro sample member
  obtain ⟨logProb, scored⟩ := (single sample member).scored
  simp [scored]

/-- Rows of one token pack whenever they come in whole slots. -/
theorem ofSamples_singles (some : samples ≠ []) (positive : 0 < samplesPerSlot)
    (whole : samplesPerSlot ∣ samples.length) :
    ofSamples samples samplesPerSlot = .ok (ofSingles samples samplesPerSlot) := by
  have sound : layoutFault samples.length 3 ⟨0, 1⟩ ⟨1, 2⟩ ⟨2, 3⟩ samplesPerSlot = none := by
    have even : ¬ (samplesPerSlot = 0 ∨ samples.length % samplesPerSlot ≠ 0) := by
      rw [Nat.mod_eq_zero_of_dvd whole]
      omega
    unfold layoutFault
    rw [if_neg even]
    rfl
  have rows : samples.length ≠ 0 := by simpa using some
  unfold ofSamples
  dsimp only
  rw [head_width single, unevenRow_single single, countP_scored single, logProbCells_single single,
    ofCanonical, ofData]
  dsimp only
  rw [sound]
  simp [rows, withLogProb, numRows, Tensor.size, ofTensor, ofSingles, List.flatMap_def, bind, Except.bind,
    pure, Except.pure]

theorem rows_ofSingles : (ofSingles samples samplesPerSlot).data.rowsI64 = .ok (samples.map RowSample.cells) := by
  have uniform : OfWidth 3 (samples.map RowSample.cells) :=
    ofWidth_map fun sample member => (single sample member).fills.length_cells
  have cut := uniform.pieces_flatten
  rw [List.length_map] at cut
  exact congrArg Except.ok cut

theorem logProbs_ofSingles :
    (ofSingles samples samplesPerSlot).logProb.map (·.rowsF32) =
      some (.ok (samples.map fun sample => sample.logProb.getD [])) := by
  have uniform : OfWidth 1 (samples.map fun sample => sample.logProb.getD []) := by
    refine ofWidth_map fun sample member => ?_
    obtain ⟨logProb, scored⟩ := (single sample member).scored
    rw [scored]
    rfl
  have cut := uniform.pieces_flatten
  rw [List.length_map] at cut
  exact congrArg (fun rows => some (Except.ok rows)) cut

end ResultBuffer

theorem SlotView.collect_ok {entries : List (List UInt32)} {row : Nat} {tokens valid : List (List Int64)}
    {lengths : List Int64} (enough : row + tokens.length ≤ entries.length) :
    ∃ read, collect (some entries) row tokens valid lengths = .ok read := by
  induction tokens generalizing row valid lengths with
  | nil => exact ⟨[], rfl⟩
  | cons token rest ih =>
    match valid, lengths with
    | [], _ => exact ⟨[], rfl⟩
    | _ :: _, [] => exact ⟨[], rfl⟩
    | flags :: valid, length :: lengths =>
      rw [List.length_cons] at enough
      have inside : row < entries.length := by omega
      obtain ⟨read, collected⟩ : ∃ read, collect (some entries) (row + 1) rest valid lengths = .ok read :=
        ih (by omega)
      rw [collect, List.getElem?_eq_getElem inside]
      dsimp only
      rw [collected]
      exact ⟨_, rfl⟩

namespace ResultBuffer

variable {samples : List RowSample} {samplesPerSlot slot : Nat} (positive : 0 < samplesPerSlot)
  (inside : slot * samplesPerSlot + samplesPerSlot ≤ samples.length)

include positive inside

theorem checkSlot_ofSingles : (ofSingles samples samplesPerSlot).checkSlot slot = .ok () := by
  have some : samplesPerSlot ≠ 0 := Nat.ne_of_gt positive
  have slots : slot < samples.length / samplesPerSlot := by
    rw [Nat.lt_div_iff_mul_lt positive]
    omega
  have counted : (ofSingles samples samplesPerSlot).numSlots = .ok (samples.length / samplesPerSlot) := if_neg some
  unfold checkSlot
  rw [counted]
  exact if_neg (Nat.not_le.mpr slots)

theorem slotView_ofSingles :
    ∃ tokens flags lengths logProbs, (ofSingles samples samplesPerSlot).slotView slot =
      .ok ⟨⟨[samplesPerSlot, 1], .i64 tokens⟩, ⟨[samplesPerSlot, 1], .i64 flags⟩,
        ⟨[samplesPerSlot], .i64 lengths⟩, some ⟨[samplesPerSlot, 1], .f32 logProbs⟩⟩ := by
  have some : samplesPerSlot ≠ 0 := Nat.ne_of_gt positive
  have whole : ¬ samples.length < slot * samplesPerSlot + samplesPerSlot := by omega
  unfold slotView cutColumns
  rw [checkSlot_ofSingles positive inside]
  simp only [ofSingles, Tensor.size, Tensor.narrow, List.getElem?_cons_zero, whole, some, Nat.lt_irrefl,
    List.getElem?_cons_succ, List.set_cons_zero, List.set_cons_succ, bind, Except.bind, ofTensor, pure,
    Except.pure, Functor.map, Except.map, reduceIte, ColumnRange.length]
  exact ⟨_, _, _, _, rfl⟩

theorem read_ofSingles :
    ∃ view read, (ofSingles samples samplesPerSlot).slotView slot = .ok view ∧ view.samples = .ok read := by
  obtain ⟨tokens, flags, lengths, logProbs, viewed⟩ := slotView_ofSingles positive inside
  obtain ⟨read, collected⟩ : ∃ read, SlotView.collect (some (pieces samplesPerSlot 1 logProbs)) 0
      (pieces samplesPerSlot 1 tokens) (pieces samplesPerSlot 1 flags) lengths = .ok read := by
    refine SlotView.collect_ok ?_
    simp only [length_pieces, Nat.zero_add, Nat.le_refl]
  exact ⟨_, read, viewed, collected⟩

end ResultBuffer

end SlotServe
