import SlotServe.Result.Buffer
import SlotServe.Proofs.Outcome
import SlotServe.Proofs.Tensor.Matrix

/-! What is packed into a result buffer comes out of it again. A slot shows the tokens and the flags of
its own rows, and of no other. -/
namespace SlotServe

namespace RowSample

def content (sample : RowSample) : List UInt32 × List Bool := (sample.tokens, sample.valid)

theorem validTokens_eq (sample : RowSample) :
    sample.validTokens = ((sample.content.1.zip sample.content.2).filter (·.2)).map (·.1) := rfl

def tokenCells (sample : RowSample) : List Int64 := sample.tokens.map (·.toUInt64.toInt64)

def flagCells (sample : RowSample) : List Int64 := sample.valid.map fun flag => if flag then 1 else 0

theorem content_ofCells (sample : RowSample) (length : Int64) (logProb : Option (List UInt32)) :
    (ofCells sample.tokenCells sample.flagCells length logProb).content = sample.content := by
  have token (token : UInt32) : token.toUInt64.toInt64.toUInt64.toUInt32 = token := by
    simp
  have flag (flag : Bool) : ((if flag then 1 else 0 : Int64) != 0) = flag := by
    cases flag <;> rfl
  simp only [content, ofCells, tokenCells, flagCells, List.map_map, Function.comp_def, token, flag,
    List.map_id']

theorem cells_eq (sample : RowSample) :
    sample.cells = sample.tokenCells ++ sample.flagCells ++ [Int64.ofNat sample.length] := rfl

structure Fills (width : Nat) (sample : RowSample) : Prop where
  tokens : sample.tokens.length = width
  valid : sample.valid.length = width

namespace Fills

variable {width : Nat} {sample : RowSample} (fills : sample.Fills width)

include fills

theorem length_tokenCells : sample.tokenCells.length = width := by
  rw [tokenCells, List.length_map, fills.tokens]

theorem length_flagCells : sample.flagCells.length = width := by
  rw [flagCells, List.length_map, fills.valid]

theorem length_cells : sample.cells.length = 2 * width + 1 := by
  rw [cells_eq, List.length_append, List.length_append, fills.length_tokenCells, fills.length_flagCells,
    List.length_singleton]
  omega

theorem take_cells : (sample.cells.drop 0).take width = sample.tokenCells := by
  rw [cells_eq, List.append_assoc, List.drop_zero]
  exact List.take_left' fills.length_tokenCells

theorem drop_cells : (sample.cells.drop width).take width = sample.flagCells := by
  rw [cells_eq, List.append_assoc, List.drop_left' fills.length_tokenCells]
  exact List.take_left' fills.length_flagCells

end Fills

end RowSample

namespace ResultBuffer

structure Packs (samples : List RowSample) (width samplesPerSlot : Nat) (buffer : ResultBuffer) : Prop where
  filled : ∀ sample ∈ samples, sample.Fills width
  data : buffer.data = ⟨[(samples.map RowSample.cells).length, 2 * width + 1],
    .i64 (samples.map RowSample.cells).flatten⟩
  tokensAt : buffer.tokensAt = ⟨0, width⟩
  validAt : buffer.validAt = ⟨width, 2 * width⟩
  lengthAt : buffer.lengthAt = ⟨2 * width, 2 * width + 1⟩
  grouped : buffer.samplesPerSlot = samplesPerSlot
  positive : 0 < samplesPerSlot

theorem unevenRow_none {width : Nat} {samples : List RowSample} (even : unevenRow width samples = none) :
    ∀ sample ∈ samples, sample.Fills width := by
  intro sample member
  have fits := List.find?_eq_none.mp (Option.map_eq_none_iff.mp even) sample member
  simp only [ne_eq, Bool.or_eq_true, decide_eq_true_eq, not_or, Classical.not_not] at fits
  exact ⟨fits.1, fits.2⟩

theorem ofData_success {data : Tensor} {tokensAt validAt lengthAt : ColumnRange} {samplesPerSlot : Nat}
    {buffer : ResultBuffer} (ok : ofData data tokensAt validAt lengthAt samplesPerSlot = .ok buffer) :
    buffer = ⟨data, tokensAt, validAt, lengthAt, samplesPerSlot, none⟩ ∧ 0 < samplesPerSlot := by
  unfold ofData at ok
  split at ok
  next rows width shape =>
    split at ok
    next => cases ok
    next sound =>
      refine ⟨(Except.ok.inj ok).symm, ?_⟩
      unfold layoutFault at sound
      dsimp only at sound
      split at sound
      next => cases sound
      next =>
        split at sound
        next => cases sound
        next =>
          split at sound
          next => cases sound
          next divides => omega
  next => cases ok

theorem withLogProb_success {buffer after : ResultBuffer} {logProb : Tensor}
    (ok : buffer.withLogProb logProb = .ok after) : after = { buffer with logProb := some logProb } := by
  obtain ⟨rows, counted, ok⟩ := except_links ok
  dsimp only at ok
  split at ok
  · cases ok
  · exact (Except.ok.inj ok).symm

theorem ofSamples_packs {samples : List RowSample} {samplesPerSlot : Nat} {buffer : ResultBuffer}
    (ok : ofSamples samples samplesPerSlot = .ok buffer) :
    ∃ width, buffer.Packs samples width samplesPerSlot := by
  unfold ofSamples at ok
  dsimp only at ok
  refine ⟨((samples.head?).map (·.tokens.length)).getD 1, ?_⟩
  generalize ((samples.head?).map (·.tokens.length)).getD 1 = width at ok ⊢
  split at ok
  next fault uneven => cases ok
  next even =>
    obtain ⟨plain, laid, ok⟩ := except_links ok
    obtain ⟨rfl, positive⟩ := ofData_success laid
    have filled := unevenRow_none (Option.eq_none_iff_forall_ne_some.mpr even)
    have packs (logProb : Option Tensor) : Packs samples width samplesPerSlot
        ⟨⟨[samples.length, 2 * width + 1], .i64 (samples.flatMap RowSample.cells)⟩, ⟨0, width⟩,
          ⟨width, 2 * width⟩, ⟨2 * width, 2 * width + 1⟩, samplesPerSlot, logProb⟩ :=
      ⟨filled, by rw [List.length_map, List.flatMap_def], rfl, rfl, rfl, rfl, positive⟩
    split at ok
    next =>
      cases ok
      exact packs none
    next =>
      split at ok
      next => cases ok
      next =>
        obtain ⟨cells, gathered, ok⟩ := except_links ok
        rw [withLogProb_success ok]
        exact packs _

theorem toHost_success {buffer copied : ResultBuffer} (ok : buffer.toHost = .ok copied) : copied = buffer := by
  unfold toHost completeHostCopy startHostCopy at ok
  obtain ⟨data, arrived, ok⟩ := except_links ok
  cases arrived
  dsimp only at ok
  split at ok
  · cases ok
  · exact (Except.ok.inj ok).symm

end ResultBuffer

namespace SlotView

theorem collect_content {logProb : Option (List (List UInt32))} {row : Nat} {samples : List RowSample}
    {lengths : List Int64} (size : lengths.length = samples.length) {read : List RowSample}
    (ok : collect logProb row (samples.map (·.tokenCells)) (samples.map (·.flagCells)) lengths = .ok read) :
    read.map (·.content) = samples.map (·.content) := by
  induction samples generalizing row lengths read with
  | nil =>
    cases ok
    rfl
  | cons sample rest ih =>
    cases lengths with
    | nil => cases size
    | cons length lengths =>
      simp only [List.map_cons, collect] at ok
      have size : lengths.length = rest.length := Nat.succ.inj size
      split at ok
      next =>
        obtain ⟨others, collected, ok⟩ := except_links ok
        cases ok
        rw [List.map_cons, List.map_cons, ih size collected, RowSample.content_ofCells]
      next =>
        split at ok
        next => cases ok
        next =>
          obtain ⟨others, collected, ok⟩ := except_links ok
          cases ok
          rw [List.map_cons, List.map_cons, ih size collected, RowSample.content_ofCells]

theorem samples_success {view : SlotView} {part : List RowSample} {width : Nat} {lengths : List Int64}
    (filled : ∀ sample ∈ part, sample.Fills width)
    (tokens : view.tokens = ⟨[part.length, width], .i64 (part.map (·.tokenCells)).flatten⟩)
    (valid : view.valid = ⟨[part.length, width], .i64 (part.map (·.flagCells)).flatten⟩)
    (column : view.lengths = ⟨[part.length], .i64 lengths⟩) (count : lengths.length = part.length)
    {read : List RowSample} (ok : view.samples = .ok read) : read.map (·.content) = part.map (·.content) := by
  have tokenRows : OfWidth width (part.map (·.tokenCells)) :=
    ofWidth_map fun sample member => (filled sample member).length_tokenCells
  have flagRows : OfWidth width (part.map (·.flagCells)) :=
    ofWidth_map fun sample member => (filled sample member).length_flagCells
  have tokenPieces := tokenRows.pieces_flatten
  have flagPieces := flagRows.pieces_flatten
  rw [List.length_map] at tokenPieces flagPieces
  unfold SlotView.samples at ok
  rw [tokens, valid, column] at ok
  simp only [Tensor.rowsI64, Tensor.vectorI64, tokenPieces, flagPieces] at ok
  obtain ⟨_, taken, ok⟩ := except_links ok
  cases taken
  obtain ⟨_, taken, ok⟩ := except_links ok
  cases taken
  obtain ⟨_, taken, ok⟩ := except_links ok
  cases taken
  obtain ⟨logProb, collected⟩ : ∃ logProb, collect logProb 0 (part.map (·.tokenCells))
      (part.map (·.flagCells)) lengths = .ok read := by
    split at ok
    · obtain ⟨logProb, _, collecting⟩ := except_links ok
      exact ⟨logProb, collecting⟩
    · obtain ⟨logProb, _, collecting⟩ := except_links ok
      exact ⟨logProb, collecting⟩
  exact collect_content count collected

end SlotView

namespace ResultBuffer.Packs

variable {samples : List RowSample} {width samplesPerSlot slot : Nat} {buffer : ResultBuffer}
  {view : SlotView}

theorem ofWidth (packs : buffer.Packs samples width samplesPerSlot) {part : List RowSample}
    (inside : part ⊆ samples) : OfWidth (2 * width + 1) (part.map RowSample.cells) :=
  ofWidth_map fun sample member => (packs.filled sample (inside member)).length_cells

theorem cutColumns_success (packs : buffer.Packs samples width samplesPerSlot) {part : List RowSample}
    (inside : part ⊆ samples) (size : part.length = samplesPerSlot) {logProb : Option Tensor}
    (ok : buffer.cutColumns ⟨[samplesPerSlot, 2 * width + 1], .i64 (part.map RowSample.cells).flatten⟩
      logProb = .ok view) :
    view.tokens = ⟨[samplesPerSlot, width], .i64 (part.map (·.tokenCells)).flatten⟩ ∧
      view.valid = ⟨[samplesPerSlot, width], .i64 (part.map (·.flagCells)).flatten⟩ ∧
      ∃ lengths, lengths.length = samplesPerSlot ∧ view.lengths = ⟨[samplesPerSlot], .i64 lengths⟩ := by
  have uniform := packs.ofWidth inside
  have rows : (part.map RowSample.cells).length = samplesPerSlot := by rw [List.length_map, size]
  have positive := packs.positive
  unfold cutColumns at ok
  obtain ⟨count, counted, ok⟩ := except_links ok
  obtain rfl : samplesPerSlot = count := Except.ok.inj (ofTensor_success counted)
  rw [if_neg (by omega)] at ok
  rw [← rows] at ok
  obtain ⟨column, cut, ok⟩ := except_links ok
  have column_eq := Tensor.narrow_columns uniform (ofTensor_success cut)
  obtain ⟨lengths, squeezed, ok⟩ := except_links ok
  obtain ⟨tokens, cutTokens, ok⟩ := except_links ok
  have tokens_eq := Tensor.narrow_columns uniform (ofTensor_success cutTokens)
  obtain ⟨valid, cutValid, ok⟩ := except_links ok
  have valid_eq := Tensor.narrow_columns uniform (ofTensor_success cutValid)
  cases ok
  have tokenPart : ∀ sample ∈ part, (sample.cells.drop 0).take width = sample.tokenCells :=
    fun sample member => (packs.filled sample (inside member)).take_cells
  have flagPart : ∀ sample ∈ part, (sample.cells.drop width).take width = sample.flagCells :=
    fun sample member => (packs.filled sample (inside member)).drop_cells
  have tokenWidth : buffer.tokensAt.length = width := by rw [packs.tokensAt]; rfl
  have validWidth : buffer.validAt.length = width := by
    rw [packs.validAt]
    exact (by omega : 2 * width - width = width)
  refine ⟨?_, ?_, ?_⟩
  · rw [tokens_eq, rows, tokenWidth, packs.tokensAt, List.map_map]
    exact congrArg (fun rows : List (List Int64) => Tensor.mk [samplesPerSlot, width] (.i64 rows.flatten))
      (List.map_congr_left tokenPart)
  · rw [valid_eq, rows, validWidth, packs.validAt, List.map_map]
    exact congrArg (fun rows : List (List Int64) => Tensor.mk [samplesPerSlot, width] (.i64 rows.flatten))
      (List.map_congr_left flagPart)
  · rw [column_eq] at squeezed
    obtain rfl := Except.ok.inj (ofTensor_success squeezed)
    refine ⟨_, ?_, by rw [rows]; rfl⟩
    have single : OfWidth 1 ((part.map RowSample.cells).map fun row =>
        (row.drop buffer.lengthAt.start).take 1) := by
      refine ofWidth_map fun row member => ?_
      have wide := uniform row member
      rw [packs.lengthAt, List.length_take, List.length_drop, wide]
      exact (by omega : min 1 (2 * width + 1 - 2 * width) = 1)
    rw [single.length_flatten, List.length_map, rows, Nat.mul_one]

theorem slotView_success (packs : buffer.Packs samples width samplesPerSlot)
    (ok : buffer.slotView slot = .ok view) :
    slot * samplesPerSlot + samplesPerSlot ≤ samples.length ∧ ∃ logProb, buffer.cutColumns
      ⟨[samplesPerSlot, 2 * width + 1], .i64
        (((samples.drop (slot * samplesPerSlot)).take samplesPerSlot).map RowSample.cells).flatten⟩ logProb =
      .ok view := by
  unfold slotView at ok
  obtain ⟨_, checked, cutting⟩ := except_links ok
  obtain ⟨rows, narrowed, viewing⟩ := except_links cutting
  have cut := ofTensor_success narrowed
  rw [packs.data, packs.grouped] at cut
  obtain ⟨inside, rfl⟩ := Tensor.narrow_rows (packs.ofWidth (List.Subset.refl samples)) cut
  rw [List.length_map] at inside
  rw [List.map_take, List.map_drop]
  refine ⟨inside, ?_⟩
  dsimp only at viewing
  split at viewing
  · obtain ⟨logProb, _, columns⟩ := except_links viewing
    exact ⟨logProb, columns⟩
  · obtain ⟨logProb, _, columns⟩ := except_links viewing
    exact ⟨logProb, columns⟩

theorem samples_content (packs : buffer.Packs samples width samplesPerSlot)
    (viewed : buffer.slotView slot = .ok view) {read : List RowSample} (ok : view.samples = .ok read) :
    slot * samplesPerSlot + samplesPerSlot ≤ samples.length ∧
      read.map (·.content) =
        ((samples.drop (slot * samplesPerSlot)).take samplesPerSlot).map (·.content) := by
  obtain ⟨inside, logProb, columns⟩ := packs.slotView_success viewed
  refine ⟨inside, ?_⟩
  generalize parted : (samples.drop (slot * samplesPerSlot)).take samplesPerSlot = part at columns
  have size : part.length = samplesPerSlot := by
    rw [← parted, List.length_take, List.length_drop]
    omega
  have within : part ⊆ samples := by
    rw [← parted]
    exact ((List.take_sublist _ _).trans (List.drop_sublist _ _)).subset
  obtain ⟨tokens, valid, lengths, count, column⟩ := packs.cutColumns_success within size columns
  rw [← size] at tokens valid count column
  exact SlotView.samples_success (fun sample member => packs.filled sample (within member))
    tokens valid column count ok

end ResultBuffer.Packs

end SlotServe
