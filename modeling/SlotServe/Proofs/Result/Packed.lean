import SlotServe.Proofs.Result.Samples

/-! Packing whole columns. Three tensors that hold the tokens, the flags and the lengths of some samples,
in cells of any type, pack into the buffer that the samples themselves make row by row. Shapes that do not
fit together are refused, and so are rows that do not come in whole slots. -/
namespace SlotServe

theorem toInt64_eq_ofInt (word : UInt64) : word.toInt64 = Int64.ofInt word.toNat := by
  apply Int64.toBitVec_inj.mp
  simp

namespace Cells

def values : Cells → List Int
  | .u8 cells => cells.map fun cell => cell.toNat
  | .u32 cells => cells.map fun cell => cell.toNat
  | .i64 cells => cells.map Int64.toInt
  | .bf16 bits => bits.map fun bits => (Binary32.ofBrain bits).toInt64.toInt
  | .f16 bits => bits.map fun bits => (Binary32.ofHalf bits).toInt64.toInt
  | .f32 bits => bits.map fun bits => (Float32.ofBits bits).toInt64.toInt
  | .f64 bits => bits.map fun bits => (Float.ofBits bits).toInt64.toInt

theorem toI64_eq (cells : Cells) : cells.toI64 = cells.values.map Int64.ofInt := by
  cases cells <;> simp [toI64, values, Function.comp_def, toInt64_eq_ofInt]

end Cells

namespace ResultBuffer

structure Columns (samples : List RowSample) (tokens valid lengths : Tensor) : Prop where
  tokensShape : tokens.shape = [samples.length, rowWidth samples]
  validShape : valid.shape = [samples.length, rowWidth samples]
  lengthsShape : lengths.shape = [samples.length]
  tokens : tokens.cells.values = (samples.flatMap (·.tokens)).map fun token => (token.toNat : Int)
  valid : valid.cells.values = (samples.flatMap (·.valid)).map fun flag => if flag then 1 else 0
  lengths : lengths.cells.values = samples.map fun sample => (sample.length : Int)

variable {samples : List RowSample} {tokens valid lengths : Tensor} {samplesPerSlot : Nat}

namespace Columns

variable (columns : Columns samples tokens valid lengths)

include columns

theorem tokenCells : tokens.cells.toI64 = (samples.map (·.tokenCells)).flatten := by
  rw [Cells.toI64_eq, columns.tokens, List.map_map, List.map_flatMap, List.flatMap_def]
  simp only [Function.comp_def, RowSample.tokenCells, toInt64_eq_ofInt, UInt32.toNat_toUInt64]

theorem flagCells : valid.cells.toI64 = (samples.map (·.flagCells)).flatten := by
  have cell (flag : Bool) : Int64.ofInt (if flag then 1 else 0) = if flag then 1 else 0 := by
    cases flag <;> rfl
  rw [Cells.toI64_eq, columns.valid, List.map_map, List.map_flatMap, List.flatMap_def]
  simp only [Function.comp_def, RowSample.flagCells, cell]

theorem lengthCells :
    lengths.cells.toI64 = (samples.map fun sample => [Int64.ofNat sample.length]).flatten := by
  rw [Cells.toI64_eq, columns.lengths, List.map_map, ← List.flatMap_def, ← List.map_eq_flatMap]
  simp only [Function.comp_def, Int64.ofInt_eq_ofNat]

end Columns

/-- The tensors of some samples whose lengths are small enough for a cell: tokens as they are, flags as
bytes and lengths as 64-bit cells. -/
theorem columns_of_samples (short : ∀ sample ∈ samples, sample.length < 0x8000000000000000) :
    Columns samples ⟨[samples.length, rowWidth samples], .u32 (samples.flatMap (·.tokens))⟩
      ⟨[samples.length, rowWidth samples], .u8 ((samples.flatMap (·.valid)).map Bool.toUInt8)⟩
      ⟨[samples.length], .i64 (samples.map fun sample => Int64.ofNat sample.length)⟩ := by
  refine ⟨rfl, rfl, rfl, rfl, ?_, ?_⟩
  · simp only [Cells.values, List.map_map]
    refine List.map_congr_left fun flag _ => ?_
    cases flag <;> rfl
  · simp only [Cells.values, List.map_map]
    refine List.map_congr_left fun sample member => ?_
    exact Int64.toInt_ofNat_of_lt (short sample member)

/-- What packing makes of tensors whose shapes agree. -/
theorem pack_eq {rows width : Nat} (tokensShape : tokens.shape = [rows, width])
    (validShape : valid.shape = [rows, width]) (lengthsShape : lengths.shape = [rows]) :
    pack tokens valid lengths samplesPerSlot =
      ofCanonical ⟨[rows, 2 * width + 1], .i64 (Tensor.beside rows (2 * width) 1
        (Tensor.beside rows width width tokens.cells.toI64 valid.cells.toI64) lengths.cells.toI64)⟩
        width samplesPerSlot := by
  have joined : Tensor.concat 1 [tokens.toI64, valid.toI64, lengths.toI64.unsqueeze 1] =
      .ok ⟨[rows, 2 * width + 1], .i64 (Tensor.beside rows (2 * width) 1
        (Tensor.beside rows width width tokens.cells.toI64 valid.cells.toI64) lengths.cells.toI64)⟩ := by
    have column : lengths.toI64.unsqueeze 1 = ⟨[rows, 1], .i64 lengths.cells.toI64⟩ := by
      simp [Tensor.unsqueeze, Tensor.toI64, lengthsShape]
    rw [column, Tensor.toI64, Tensor.toI64, tokensShape, validShape, Nat.two_mul]
    simp only [Tensor.concat, List.foldlM_cons, List.foldlM_nil, Tensor.append_columns, bind, Except.bind, pure,
      Except.pure]
  unfold pack
  simp [Tensor.matrix, Tensor.vector, tokensShape, validShape, lengthsShape, joined, ofTensor, bind, Except.bind]

/-- Shapes that do not fit together are refused before anything is joined. -/
theorem pack_unpackable {rows width otherRows otherWidth count : Nat} (tokensShape : tokens.shape = [rows, width])
    (validShape : valid.shape = [otherRows, otherWidth]) (lengthsShape : lengths.shape = [count])
    (unlike : (otherRows, otherWidth) ≠ (rows, width) ∨ count ≠ rows) :
    pack tokens valid lengths samplesPerSlot =
      .error (.layout (.unpackable tokens.shape valid.shape lengths.shape)) := by
  unfold pack
  simp only [Tensor.matrix, Tensor.vector, tokensShape, validShape, lengthsShape, ofTensor, bind, Except.bind]
  by_cases sized : (otherRows, otherWidth) = (rows, width)
  · have uncounted : count ≠ rows := unlike.resolve_left (not_not.mpr sized)
    rw [if_neg (not_not.mpr sized)]
    exact if_pos uncounted ▸ rfl
  · rw [if_pos sized]
    rfl

/-- A layout that suits some rows suits all others too but for the slots. -/
theorem Layout.layoutFault_uneven {others rows width each : Nat} {tokensAt validAt lengthAt : ColumnRange}
    (layout : Layout others width tokensAt validAt lengthAt each)
    (uneven : samplesPerSlot = 0 ∨ ¬samplesPerSlot ∣ rows) :
    layoutFault rows width tokensAt validAt lengthAt samplesPerSlot = some (.unevenSlots rows samplesPerSlot) := by
  have broken : samplesPerSlot = 0 ∨ rows % samplesPerSlot ≠ 0 :=
    uneven.imp_right fun rest whole => rest (Nat.dvd_of_mod_eq_zero whole)
  have sound := layoutFault_eq_none_iff.mpr layout
  unfold layoutFault at sound ⊢
  dsimp only at sound ⊢
  split at sound
  next => cases sound
  next inside =>
    split at sound
    next => cases sound
    next apart => exact if_pos broken

theorem pack_uneven {rows width : Nat} (tokensShape : tokens.shape = [rows, width])
    (validShape : valid.shape = [rows, width]) (lengthsShape : lengths.shape = [rows]) (some : 1 ≤ width)
    (uneven : samplesPerSlot = 0 ∨ ¬samplesPerSlot ∣ rows) :
    pack tokens valid lengths samplesPerSlot = .error (.layout (.unevenSlots rows samplesPerSlot)) := by
  have canonical := canonical_layout_iff.mpr ⟨some, Nat.one_pos, Nat.one_dvd 0⟩
  rw [pack_eq tokensShape validShape lengthsShape]
  simp only [ofCanonical, ofData, canonical.layoutFault_uneven uneven]

theorem Columns.pack_eq_ofSamples (columns : Columns samples tokens valid lengths)
    (unscored : ∀ sample ∈ samples, sample.logProb = none)
    (packable : Packable samples (rowWidth samples) samplesPerSlot) :
    pack tokens valid lengths samplesPerSlot = ofSamples samples samplesPerSlot := by
  have tokenGrid : Grid samples.length (rowWidth samples) (samples.map (·.tokenCells)) :=
    ⟨List.length_map _, ofWidth_map fun sample member => (packable.filled sample member).length_tokenCells⟩
  have flagGrid : Grid samples.length (rowWidth samples) (samples.map (·.flagCells)) :=
    ⟨List.length_map _, ofWidth_map fun sample member => (packable.filled sample member).length_flagCells⟩
  have pairGrid : Grid samples.length (2 * rowWidth samples)
      (samples.map fun sample => sample.tokenCells ++ sample.flagCells) := by
    refine ⟨List.length_map _, ofWidth_map fun sample member => ?_⟩
    have fills := packable.filled sample member
    rw [List.length_append, fills.length_tokenCells, fills.length_flagCells, Nat.two_mul]
  have lengthGrid : Grid samples.length 1 (samples.map fun sample => [Int64.ofNat sample.length]) :=
    ⟨List.length_map _, ofWidth_map fun _ _ => rfl⟩
  have unkept : scores samples = none := if_pos (countP_scored_iff.mpr unscored)
  have laid := canonical_layout_iff.mpr ⟨packable.some, packable.positive, packable.whole⟩
  rw [packable.ofSamples_eq, pack_eq columns.tokensShape columns.validShape columns.lengthsShape,
    columns.tokenCells, columns.flagCells, columns.lengthCells, Tensor.beside_rows tokenGrid flagGrid,
    List.zipWith_map, List.zipWith_self, Tensor.beside_rows pairGrid lengthGrid, List.zipWith_map, List.zipWith_self,
    unkept, ofCanonical, ofData_eq_ok_iff.mpr ⟨laid, rfl⟩]
  simp only [ofRows, List.length_map]
  rfl

/-- Whole columns pack into the buffer that the samples make. Shapes that disagree are refused, and so are
rows that do not fill whole slots. -/
theorem pack_agrees (samplesPerSlot : Nat) :
    (∀ samples buffer, (∀ sample ∈ samples, sample.logProb = none) →
      ofSamples samples samplesPerSlot = .ok buffer →
        (∀ tokens valid lengths, Columns samples tokens valid lengths →
          pack tokens valid lengths samplesPerSlot = .ok buffer) ∧
        ((∀ sample ∈ samples, sample.length < 0x8000000000000000) →
          ∃ tokens valid lengths, Columns samples tokens valid lengths)) ∧
    ∀ (tokens valid lengths : Tensor) (rows width otherRows otherWidth count : Nat),
      tokens.shape = [rows, width] → valid.shape = [otherRows, otherWidth] → lengths.shape = [count] →
        ((otherRows ≠ rows ∨ otherWidth ≠ width ∨ count ≠ rows) →
          pack tokens valid lengths samplesPerSlot =
            .error (.layout (.unpackable tokens.shape valid.shape lengths.shape))) ∧
        (otherRows = rows → otherWidth = width → count = rows → 1 ≤ width →
          samplesPerSlot = 0 ∨ ¬samplesPerSlot ∣ rows →
            pack tokens valid lengths samplesPerSlot = .error (.layout (.unevenSlots rows samplesPerSlot))) := by
  constructor
  · intro samples buffer unscored ok
    constructor
    · intro tokens valid lengths columns
      rw [columns.pack_eq_ofSamples unscored (ofSamples_packable ok), ok]
    · intro short
      exact ⟨_, _, _, columns_of_samples short⟩
  · intro tokens valid lengths rows width otherRows otherWidth count tokensShape validShape lengthsShape
    constructor
    · intro unlike
      refine pack_unpackable tokensShape validShape lengthsShape ?_
      rw [ne_eq, Prod.mk.injEq]
      tauto
    · rintro rfl rfl rfl some uneven
      exact pack_uneven tokensShape validShape lengthsShape some uneven

theorem pack_agrees_two_rows :
    let samples : List RowSample := [⟨[7, 9], [true, false], 3, none⟩, ⟨[4, 4294967295], [true, true], 5, none⟩]
    let buffer : ResultBuffer :=
      ⟨⟨[2, 5], .i64 [7, 9, 1, 0, 3, 4, 4294967295, 1, 1, 5]⟩, ⟨0, 2⟩, ⟨2, 4⟩, ⟨4, 5⟩, 1, none⟩
    (∀ sample ∈ samples, sample.logProb = none) ∧ ofSamples samples 1 = .ok buffer ∧
    Columns samples ⟨[2, 2], .i64 [7, 9, 4, 4294967295]⟩ ⟨[2, 2], .u8 [1, 0, 1, 1]⟩ ⟨[2], .u32 [3, 5]⟩ ∧
    pack ⟨[2, 2], .i64 [7, 9, 4, 4294967295]⟩ ⟨[2, 2], .u8 [1, 0, 1, 1]⟩ ⟨[2], .u32 [3, 5]⟩ 1 = .ok buffer := by
  intro samples buffer
  have unscored : ∀ sample ∈ samples, sample.logProb = none := by decide
  have made : ofSamples samples 1 = .ok buffer := by with_unfolding_all rfl
  have columns : Columns samples ⟨[2, 2], .i64 [7, 9, 4, 4294967295]⟩ ⟨[2, 2], .u8 [1, 0, 1, 1]⟩
      ⟨[2], .u32 [3, 5]⟩ := ⟨rfl, rfl, rfl, by decide, by decide, by decide⟩
  exact ⟨unscored, made, columns, ((pack_agrees 1).1 samples buffer unscored made).1 _ _ _ columns⟩

end ResultBuffer

end SlotServe
