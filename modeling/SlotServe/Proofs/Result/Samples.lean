import SlotServe.Proofs.Result.RoundTrip
import SlotServe.Proofs.Result.Views

/-! Samples and buffers in the canonical layout say the same. Which samples can be packed is decided by
their widths and their log probabilities alone, and either way round nothing is lost. -/
namespace SlotServe

theorem cell_of_word {cell : Int64} (natural : 0 ≤ cell) (small : cell < 0x100000000) :
    cell.toUInt64.toUInt32.toUInt64.toInt64 = cell := by
  rw [Int64.le_iff_toInt_le, ← Int64.toInt_toBitVec, ← Int64.toInt_toBitVec,
    BitVec.toInt_eq_toNat_cond cell.toBitVec] at natural
  rw [Int64.lt_iff_toInt_lt, ← Int64.toInt_toBitVec, ← Int64.toInt_toBitVec,
    BitVec.toInt_eq_toNat_cond cell.toBitVec] at small
  apply Int64.toBitVec_inj.mp
  apply BitVec.eq_of_toNat_eq
  simp at *
  omega

namespace RowSample

variable {width : Nat} {row : List Int64}

def ofRow (width : Nat) (row : List Int64) (logProb : Option (List UInt32)) : RowSample :=
  ofCells (row.take width) ((row.drop width).take width) (row[2 * width]?.getD 0) logProb

structure Readable (width : Nat) (row : List Int64) : Prop where
  tokens : ∀ cell ∈ row.take width, 0 ≤ cell ∧ cell < 0x100000000
  valid : ∀ cell ∈ (row.drop width).take width, cell = 0 ∨ cell = 1
  lengths : ∀ cell ∈ row.drop (2 * width), 0 ≤ cell

theorem ofRow_cells {sample : RowSample} (fills : sample.Fills width) (short : sample.length < 0x8000000000000000) :
    ofRow width sample.cells sample.logProb = sample := by
  have tokens : sample.cells.take width = sample.tokenCells := fills.take_cells
  have last : sample.cells[2 * width]? = some (Int64.ofNat sample.length) := by
    have size : (sample.tokenCells ++ sample.flagCells).length = 2 * width := by
      rw [List.length_append, fills.length_tokenCells, fills.length_flagCells]
      omega
    rw [cells_eq, ← size, List.getElem?_append_right (Nat.le_refl _), Nat.sub_self]
    rfl
  have content := content_ofCells sample (Int64.ofNat sample.length) sample.logProb
  obtain ⟨sameTokens, sameFlags⟩ := Prod.mk.inj content
  rw [ofRow, tokens, fills.drop_cells, last, Option.getD_some]
  have same : (ofCells sample.tokenCells sample.flagCells (Int64.ofNat sample.length) sample.logProb).length =
      sample.length := Int64.toNatClampNeg_ofNat_of_lt short
  cases sample
  exact RowSample.mk.injEq .. ▸ ⟨sameTokens, sameFlags, same, rfl⟩

variable (size : row.length = 2 * width + 1) (logProb : Option (List UInt32))

include size

theorem ofRow_fills : (ofRow width row logProb).Fills width := by
  constructor
  · simp [ofRow, ofCells]
    omega
  · simp [ofRow, ofCells]
    omega

theorem cells_ofRow (readable : Readable width row) : (ofRow width row logProb).cells = row := by
  obtain ⟨length, last⟩ : ∃ length, row.drop (2 * width) = [length] := by
    apply List.length_eq_one_iff.mp
    rw [List.length_drop]
    omega
  have found : row[2 * width]? = some length := by
    have := congrArg (·[0]?) last
    simpa using this
  have tokens : (row.take width).map (fun cell => cell.toUInt64.toUInt32.toUInt64.toInt64) = row.take width := by
    conv_rhs => rw [← List.map_id (row.take width)]
    apply List.map_congr_left
    intro cell member
    obtain ⟨natural, small⟩ := readable.tokens cell member
    exact cell_of_word natural small
  have flags : ((row.drop width).take width).map (fun cell => if (cell != 0) = true then (1 : Int64) else 0) =
      (row.drop width).take width := by
    conv_rhs => rw [← List.map_id ((row.drop width).take width)]
    apply List.map_congr_left
    intro cell member
    rcases readable.valid cell member with rfl | rfl <;> rfl
  have counted : Int64.ofNat length.toNatClampNeg = length :=
    Int64.ofNat_toNatClampNeg length (readable.lengths length (by simp [last]))
  have parts : row.take width ++ (row.drop width).take width ++ [length] = row := by
    rw [← last, ← List.take_add, ← Nat.two_mul, List.take_append_drop]
  rw [cells_eq]
  simp only [tokenCells, flagCells, ofRow, ofCells, found, Option.getD_some, List.map_map, Function.comp_def,
    tokens, flags, counted, parts]

end RowSample

namespace SlotView

theorem collect_rows {first : Nat} {rows : List (List Int64)} {logProb : Option (List (List UInt32))}
    (enough : ∀ entries ∈ logProb, first + rows.length ≤ entries.length) (width : Nat) :
    collect logProb first (rows.map fun row => row.take width) (rows.map fun row => (row.drop width).take width)
        (rows.map fun row => row[2 * width]?.getD 0) =
      .ok ((rows.zipIdx first).map fun entry => .ofRow width entry.1 (logProb.bind (·[entry.2]?))) := by
  induction rows generalizing first with
  | nil => rfl
  | cons row rest ih =>
    have following : ∀ entries ∈ logProb, first + 1 + rest.length ≤ entries.length := by
      intro entries kept
      have := enough entries kept
      rw [List.length_cons] at this
      omega
    have read := ih following
    simp only [List.map_cons, collect, List.zipIdx_cons]
    cases logProb with
    | none =>
      simp only at read ⊢
      rw [read]
      rfl
    | some entries =>
      have inside : first < entries.length := by
        have := enough entries rfl
        rw [List.length_cons] at this
        omega
      simp only [List.getElem?_eq_getElem inside, read]
      simp [RowSample.ofRow, List.getElem?_eq_getElem inside, bind, Except.bind, pure, Except.pure]

end SlotView

namespace ResultBuffer

def ofRows (rows : List (List Int64)) (entries : Option (List (List UInt32))) (width samplesPerSlot : Nat) :
    ResultBuffer :=
  { data := ⟨[rows.length, 2 * width + 1], .i64 rows.flatten⟩
    tokensAt := ⟨0, width⟩
    validAt := ⟨width, 2 * width⟩
    lengthAt := ⟨2 * width, 2 * width + 1⟩
    samplesPerSlot
    logProb := entries.map fun entries => ⟨[rows.length, width], .f32 entries.flatten⟩ }

def rowSamples (width : Nat) (rows : List (List Int64)) (entries : Option (List (List UInt32))) : List RowSample :=
  rows.zipIdx.map fun entry => .ofRow width entry.1 (entries.bind (·[entry.2]?))

structure Canonical (width samplesPerSlot : Nat) (rows : List (List Int64))
    (entries : Option (List (List UInt32))) : Prop where
  some : 0 < width
  positive : 0 < samplesPerSlot
  whole : samplesPerSlot ∣ rows.length
  uniform : OfWidth (2 * width + 1) rows
  scored : ∀ part ∈ entries, Grid rows.length width part

theorem canonical_layout_iff {rows width samplesPerSlot : Nat} :
    Layout rows (2 * width + 1) ⟨0, width⟩ ⟨width, 2 * width⟩ ⟨2 * width, 2 * width + 1⟩ samplesPerSlot ↔
      0 < width ∧ 0 < samplesPerSlot ∧ samplesPerSlot ∣ rows := by
  constructor
  · intro layout
    exact ⟨layout.tokens.1, layout.positive, layout.whole⟩
  · rintro ⟨some, positive, whole⟩
    refine ⟨⟨some, ?_⟩, ⟨?_, ?_⟩, ⟨?_, ?_⟩, ⟨?_, ?_, ?_⟩, positive, whole⟩ <;>
      simp [ColumnRange.overlaps] <;> omega

namespace Canonical

variable {width samplesPerSlot : Nat} {rows : List (List Int64)} {entries : Option (List (List UInt32))}
  (canonical : Canonical width samplesPerSlot rows entries)

include canonical

theorem formed : (ofRows rows entries width samplesPerSlot).Formed rows.length (2 * width + 1) rows.flatten := by
  refine ⟨rfl, ?_, ?_, ?_⟩
  · simp [Tensor.Fits, Cells.length, volume, canonical.uniform.length_flatten]
  · exact canonical_layout_iff.mpr ⟨canonical.some, canonical.positive, canonical.whole⟩
  · intro logProb kept
    obtain ⟨part, found, rfl⟩ := Option.map_eq_some_iff.mp kept
    have grid := canonical.scored part found
    refine ⟨width, .f32 part.flatten, rfl, ?_⟩
    simp [Tensor.Fits, Cells.length, volume, grid.uniform.length_flatten, grid.height]

theorem read_gathered :
    ((ofRows rows entries width samplesPerSlot).gathered (List.range rows.length)).samples =
      .ok (rowSamples width rows entries) := by
  have reach : ∀ row ∈ rows, row.length = 2 * width + 1 := canonical.uniform
  have tokens := canonical.uniform.gather_range (by omega : 0 + width ≤ 2 * width + 1)
  have valid := canonical.uniform.gather_range (by omega : width + width ≤ 2 * width + 1)
  have lengths := canonical.uniform.gather_range (by omega : 2 * width + 1 ≤ 2 * width + 1)
  have tokenRows : OfWidth width (rows.map fun row => row.take width) := by
    refine ofWidth_map fun row member => ?_
    rw [List.length_take, reach row member]
    omega
  have flagRows : OfWidth width (rows.map fun row => (row.drop width).take width) := by
    refine ofWidth_map fun row member => ?_
    rw [List.length_take, List.length_drop, reach row member]
    omega
  have lastCells : (rows.map fun row => (row.drop (2 * width)).take 1).flatten =
      rows.map fun row => row[2 * width]?.getD 0 := by
    rw [← List.flatMap_def, List.map_eq_flatMap]
    refine List.flatMap_congr fun row member => ?_
    have inside : 2 * width < row.length := by
      rw [reach row member]
      omega
    simp [List.take_one, List.head?_drop, List.getElem?_eq_getElem inside]
  have tokenPieces := tokenRows.pieces_flatten
  have flagPieces := flagRows.pieces_flatten
  rw [List.length_map] at tokenPieces flagPieces
  have wide : volume [2 * width + 1] = 2 * width + 1 := Nat.mul_one _
  have span : 2 * width - width = width := by omega
  simp only [List.drop_zero] at tokens
  have enough : ∀ part ∈ entries, 0 + rows.length ≤ part.length := by
    intro part kept
    have grid := canonical.scored part kept
    rw [grid.height]
    omega
  have collected := SlotView.collect_rows enough width
  unfold SlotView.samples gathered ofRows
  simp only [Cells.gather, Cells.rearrange, List.length_range, List.tail_cons, wide, ColumnRange.length, span,
    Nat.sub_zero, tokens, valid, lengths, lastCells, Tensor.rowsI64, Tensor.vectorI64, tokenPieces, flagPieces,
    ofTensor, bind, Except.bind]
  cases entries with
  | none => exact collected
  | some part =>
    have grid := canonical.scored part rfl
    have kept := grid.uniform.gather_all
    have cut := grid.uniform.pieces_flatten
    rw [grid.height] at kept cut
    have one : volume [width] = width := Nat.mul_one _
    simp only [Option.map_some, Tensor.toF32, Cells.toF32, Tensor.rowsF32, List.tail_cons, one, kept, cut]
    exact collected

theorem cutColumns_all : (ofRows rows entries width samplesPerSlot).cutColumns
    (ofRows rows entries width samplesPerSlot).data (ofRows rows entries width samplesPerSlot).logProb =
      .ok ((ofRows rows entries width samplesPerSlot).gathered (List.range rows.length)) := by
  have inside : ∀ row ∈ List.range rows.length, row < rows.length := by simp
  have all : (Cells.i64 rows.flatten).gather (2 * width + 1) (List.range rows.length) 0 (2 * width + 1) =
      .i64 rows.flatten := congrArg Cells.i64 canonical.uniform.gather_all
  have cut := canonical.formed.cutColumns_eq inside (ofRows rows entries width samplesPerSlot).logProb
  have same : (ofRows rows entries width samplesPerSlot).logProb =
      ((ofRows rows entries width samplesPerSlot).gathered (List.range rows.length)).logProb := by
    unfold gathered ofRows
    cases entries with
    | none => rfl
    | some part =>
      have grid := canonical.scored part rfl
      have kept := grid.uniform.gather_all
      rw [grid.height] at kept
      have one : volume [width] = width := Nat.mul_one _
      simp only [Option.map_some, List.length_range, List.tail_cons, one]
      exact congrArg (fun cells => Option.some (Tensor.mk [rows.length, width] (.f32 cells))) kept.symm
  rw [List.length_range, all] at cut
  rw [same] at cut ⊢
  exact cut

theorem slotsView_all (few : rows.length < 0x100000000) :
    (ofRows rows entries width samplesPerSlot).slotsView (List.range (rows.length / samplesPerSlot)) =
      .ok ((ofRows rows entries width samplesPerSlot).gathered (List.range rows.length)) := by
  have grouped : (ofRows rows entries width samplesPerSlot).samplesPerSlot = samplesPerSlot := rfl
  have whole : rows.length / samplesPerSlot * samplesPerSlot = rows.length := Nat.div_mul_cancel canonical.whole
  have covered : (List.range (rows.length / samplesPerSlot)).find? (rows.length / samplesPerSlot ≤ ·) = none := by
    simp
  rw [canonical.formed.slotsView_eq few, grouped, covered, addresses_range, whole]
  · rw [List.length_range, grouped, whole, Size.limit]
    omega
  · rw [List.length_range, grouped, whole, Size.addressable, decide_eq_true_eq]
    omega

end Canonical

variable {width samplesPerSlot : Nat} {samples : List RowSample}

theorem unevenRow_eq_none (filled : ∀ sample ∈ samples, sample.Fills width) : unevenRow width samples = none := by
  unfold unevenRow
  rw [Option.map_eq_none_iff, List.find?_eq_none]
  intro sample member
  have fills := filled sample member
  simp [fills.tokens, fills.valid]

theorem logProbCells_eq (each : ∀ sample ∈ samples, (sample.logProb.getD []).length = width) :
    logProbCells width samples = .ok (samples.map fun sample => sample.logProb.getD []).flatten := by
  induction samples with
  | nil => rfl
  | cons first rest ih =>
    have here := each first (by simp)
    have following := ih fun sample member => each sample (List.mem_cons_of_mem first member)
    rw [logProbCells, following]
    exact if_neg (not_not.mpr here)

theorem logProbCells_success {cells : List UInt32} (ok : logProbCells width samples = .ok cells) :
    ∀ sample ∈ samples, (sample.logProb.getD []).length = width := by
  induction samples generalizing cells with
  | nil => simp
  | cons first rest ih =>
    rw [logProbCells] at ok
    dsimp only at ok
    split at ok
    next => cases ok
    next wide =>
      obtain ⟨others, gathered, -⟩ := except_links ok
      rintro sample member
      rcases List.mem_cons.mp member with rfl | later
      · exact Classical.not_not.mp wide
      · exact ih gathered sample later

def rowWidth (samples : List RowSample) : Nat := ((samples.head?).map (·.tokens.length)).getD 1

def scores (samples : List RowSample) : Option (List (List UInt32)) :=
  if samples.countP (·.logProb.isSome) = 0 then none else some (samples.map fun sample => sample.logProb.getD [])

structure Packable (samples : List RowSample) (width samplesPerSlot : Nat) : Prop where
  some : 1 ≤ width
  positive : 1 ≤ samplesPerSlot
  whole : samplesPerSlot ∣ samples.length
  filled : ∀ sample ∈ samples, sample.Fills width
  scored : (∀ sample ∈ samples, sample.logProb = none) ∨
    ∀ sample ∈ samples, ∃ row, sample.logProb = .some row ∧ row.length = width

theorem countP_scored_iff : samples.countP (·.logProb.isSome) = 0 ↔ ∀ sample ∈ samples, sample.logProb = none := by
  simp [List.countP_eq_zero]

theorem ofSamples_packable {buffer : ResultBuffer} (ok : ofSamples samples samplesPerSlot = .ok buffer) :
    Packable samples (rowWidth samples) samplesPerSlot := by
  unfold ofSamples at ok
  dsimp only at ok
  rw [← rowWidth] at ok
  split at ok
  next fault uneven => cases ok
  next even =>
    obtain ⟨plain, laid, ok⟩ := except_links ok
    obtain ⟨layout, rfl⟩ := ofData_eq_ok_iff.mp laid
    obtain ⟨some, positive, whole⟩ := canonical_layout_iff.mp layout
    have filled := unevenRow_none (Option.eq_none_iff_forall_ne_some.mpr even)
    refine ⟨some, positive, whole, filled, ?_⟩
    split at ok
    next none => exact .inl (countP_scored_iff.mp none)
    next =>
      split at ok
      next => cases ok
      next every =>
        obtain ⟨cells, gathered, -⟩ := except_links ok
        refine .inr fun sample member => ?_
        have every := List.countP_eq_length.mp (Classical.not_not.mp every) sample member
        obtain ⟨row, carried⟩ := Option.isSome_iff_exists.mp every
        have wide := logProbCells_success gathered sample member
        rw [carried] at wide
        exact ⟨row, carried, wide⟩

namespace Packable

theorem rowWidth_eq (packable : Packable samples width samplesPerSlot) (some : samples ≠ []) :
    rowWidth samples = width := by
  cases samples with
  | nil => exact absurd rfl some
  | cons first rest => exact (packable.filled first (by simp)).tokens

theorem atRowWidth (packable : Packable samples width samplesPerSlot) :
    Packable samples (rowWidth samples) samplesPerSlot := by
  by_cases empty : samples = []
  · subst empty
    exact ⟨Nat.le_refl 1, packable.positive, packable.whole, by simp, by simp⟩
  · rwa [packable.rowWidth_eq empty]

theorem canonical (packable : Packable samples width samplesPerSlot) :
    Canonical width samplesPerSlot (samples.map RowSample.cells) (scores samples) := by
  refine ⟨packable.some, packable.positive, ?_, ?_, ?_⟩
  · rw [List.length_map]
    exact packable.whole
  · exact ofWidth_map fun sample member => (packable.filled sample member).length_cells
  · intro part kept
    unfold scores at kept
    split at kept
    next => cases kept
    next carrying =>
      cases kept
      rcases packable.scored with none | every
      · exact absurd (countP_scored_iff.mpr none) carrying
      · refine ⟨by simp, ofWidth_map fun sample member => ?_⟩
        obtain ⟨row, carried, wide⟩ := every sample member
        rw [carried]
        exact wide

theorem ofSamples_eq (packable : Packable samples (rowWidth samples) samplesPerSlot) :
    ofSamples samples samplesPerSlot = .ok (ofRows (samples.map RowSample.cells) (scores samples)
      (rowWidth samples) samplesPerSlot) := by
  have laid := canonical_layout_iff.mpr ⟨packable.some, packable.positive, packable.whole⟩
  unfold ofSamples
  dsimp only
  rw [← rowWidth, unevenRow_eq_none packable.filled, ofCanonical, ofData_eq_ok_iff.mpr ⟨laid, rfl⟩]
  simp only [bind, Except.bind, pure, Except.pure]
  by_cases none : samples.countP (·.logProb.isSome) = 0
  · simp [none, scores, ofRows, List.flatMap_def]
  · have carried : ∀ sample ∈ samples, ∃ row, sample.logProb = .some row ∧
        row.length = rowWidth samples := by
      rcases packable.scored with absent | every
      · exact absurd (countP_scored_iff.mpr absent) none
      · exact every
    have every : samples.countP (·.logProb.isSome) = samples.length := by
      refine List.countP_eq_length.mpr fun sample member => ?_
      obtain ⟨row, found, -⟩ := carried sample member
      rw [found]
      rfl
    have each : ∀ sample ∈ samples, (sample.logProb.getD []).length = rowWidth samples := by
      intro sample member
      obtain ⟨row, found, wide⟩ := carried sample member
      rw [found]
      exact wide
    rw [if_neg none, if_neg (not_not.mpr every), logProbCells_eq each]
    simp [withLogProb, numRows, Tensor.size, ofTensor, scores, none, ofRows, List.flatMap_def, bind, Except.bind,
      pure, Except.pure]

theorem rowSamples_cells (packable : Packable samples width samplesPerSlot)
    (short : ∀ sample ∈ samples, sample.length < 0x8000000000000000) :
    rowSamples width (samples.map RowSample.cells) (scores samples) = samples := by
  apply List.ext_getElem
  · simp [rowSamples]
  · intro place left right
    have member := List.getElem_mem right
    have carried : (scores samples).bind (·[place]?) = samples[place].logProb := by
      unfold scores
      split
      next none => exact (countP_scored_iff.mp none _ member).symm
      next carrying =>
        rcases packable.scored with none | every
        · exact absurd (countP_scored_iff.mpr none) carrying
        · obtain ⟨row, found, -⟩ := every _ member
          simp [List.getElem?_eq_getElem right, found]
    simp only [rowSamples, List.getElem_map, List.getElem_zipIdx, Nat.zero_add, carried]
    exact RowSample.ofRow_cells (packable.filled _ member) (short _ member)

end Packable

section

variable {rows : List (List Int64)} {entries : Option (List (List UInt32))}
  (canonical : Canonical width samplesPerSlot rows entries)

include canonical

theorem Canonical.cells_rowSamples (readable : ∀ row ∈ rows, RowSample.Readable width row) :
    (rowSamples width rows entries).map RowSample.cells = rows := by
  unfold rowSamples
  rw [List.map_map]
  conv_rhs => rw [← List.zipIdx_map_fst 0 rows]
  apply List.map_congr_left
  intro entry member
  have present := List.fst_mem_of_mem_zipIdx member
  exact RowSample.cells_ofRow (canonical.uniform _ present) _ (readable _ present)

theorem Canonical.packable_rowSamples : Packable (rowSamples width rows entries) width samplesPerSlot := by
  have each {sample : RowSample} (member : sample ∈ rowSamples width rows entries) :
      ∃ (place : Nat) (row : List Int64), rows[place]? = .some row ∧
        sample = .ofRow width row (entries.bind (·[place]?)) := by
    obtain ⟨⟨row, place⟩, listed, rfl⟩ := List.mem_map.mp member
    exact ⟨place, row, List.mem_zipIdx_iff_getElem?.mp listed, rfl⟩
  refine ⟨canonical.some, canonical.positive, ?_, ?_, ?_⟩
  · rw [rowSamples, List.length_map, List.length_zipIdx]
    exact canonical.whole
  · intro sample member
    obtain ⟨place, row, found, rfl⟩ := each member
    exact RowSample.ofRow_fills (canonical.uniform row (List.mem_of_getElem? found)) _
  · cases entries with
    | none =>
      refine .inl fun sample member => ?_
      obtain ⟨place, row, -, rfl⟩ := each member
      rfl
    | some part =>
      refine .inr fun sample member => ?_
      obtain ⟨place, row, found, rfl⟩ := each member
      exact (canonical.scored part rfl).present (List.getElem?_eq_some_iff.mp found).1

theorem Canonical.scores_rowSamples (some : rows ≠ []) : scores (rowSamples width rows entries) = entries := by
  unfold scores
  cases entries with
  | none =>
    refine if_pos (countP_scored_iff.mpr fun sample member => ?_)
    obtain ⟨entry, -, rfl⟩ := List.mem_map.mp member
    rfl
  | some part =>
    have height := (canonical.scored part rfl).height
    have first : 0 < rows.length := List.length_pos_iff.mpr some
    have carried {place : Nat} (inside : place < rows.length) (within : place < part.length)
        (listed : place < (rowSamples width rows (.some part)).length) :
        (rowSamples width rows (.some part))[place].logProb = .some part[place] := by
      simp [rowSamples, RowSample.ofRow, RowSample.ofCells, within]
    have size : (rowSamples width rows (.some part)).length = rows.length := by simp [rowSamples]
    rw [if_neg]
    · refine congrArg Option.some (List.ext_getElem ?_ fun place left right => ?_)
      · rw [List.length_map, size, height]
      · rw [List.getElem_map, carried (by omega) right]
        rfl
    · intro none
      have filled : 0 < (rowSamples width rows (.some part)).length := by omega
      have absent := countP_scored_iff.mp none _ (List.getElem_mem filled)
      rw [carried first (by omega)] at absent
      cases absent

end

inductive InOrder (rows width samplesPerSlot : Nat) (cells : List Int64) : ResultBuffer → Prop
  | plain {buffer : ResultBuffer}
      (ok : ofCanonical ⟨[rows, 2 * width + 1], .i64 cells⟩ width samplesPerSlot = .ok buffer) :
      InOrder rows width samplesPerSlot cells buffer
  | scored {plain buffer : ResultBuffer} {entries : List UInt32}
      (laid : ofCanonical ⟨[rows, 2 * width + 1], .i64 cells⟩ width samplesPerSlot = .ok plain)
      (fits : Tensor.Fits ⟨[rows, width], .f32 entries⟩)
      (ok : plain.withLogProb ⟨[rows, width], .f32 entries⟩ = .ok buffer) :
      InOrder rows width samplesPerSlot cells buffer

theorem InOrder.canonical {rows : Nat} {cells : List Int64} {buffer : ResultBuffer}
    (inOrder : buffer.InOrder rows width samplesPerSlot cells)
    (fits : Tensor.Fits ⟨[rows, 2 * width + 1], .i64 cells⟩) :
    ∃ entries, Canonical width samplesPerSlot (pieces rows (2 * width + 1) cells) entries ∧
      buffer = ofRows (pieces rows (2 * width + 1) cells) entries width samplesPerSlot := by
  have size : cells.length = rows * (2 * width + 1) := Tensor.length_cells fits
  have whole : (pieces rows (2 * width + 1) cells).flatten = cells := by
    rw [flatten_pieces]
    exact List.take_of_length_le (Nat.le_of_eq size)
  have uniform := ofWidth_pieces size
  have height := length_pieces rows (2 * width + 1) cells
  cases inOrder with
  | plain ok =>
    obtain ⟨layout, rfl⟩ := ofData_eq_ok_iff.mp ok
    obtain ⟨some, positive, divides⟩ := canonical_layout_iff.mp layout
    refine ⟨none, ⟨some, positive, by rwa [height], uniform, by simp⟩, ?_⟩
    rw [ofRows, whole, height]
    rfl
  | @scored _ _ entries laid filled ok =>
    obtain ⟨layout, rfl⟩ := ofData_eq_ok_iff.mp laid
    obtain ⟨some, positive, divides⟩ := canonical_layout_iff.mp layout
    obtain rfl := withLogProb_success ok
    have scores : entries.length = rows * width := Tensor.length_cells filled
    have all : (pieces rows width entries).flatten = entries := by
      rw [flatten_pieces]
      exact List.take_of_length_le (Nat.le_of_eq scores)
    refine ⟨.some (pieces rows width entries), ⟨some, positive, by rwa [height], uniform, ?_⟩, ?_⟩
    · rintro part ⟨⟩
      exact ⟨by rw [length_pieces, height], ofWidth_pieces scores⟩
    · rw [ofRows, whole, height, Option.map_some, all]

/-- Samples and buffers carry the same. Rows pack exactly if they come in whole slots, are equally wide in
tokens and flags, and carry log probabilities of that width all or not at all; reading all slots gives them
back, log probabilities bit by bit. The other way round, a buffer in the canonical layout whose cells are those of samples is packed again
from what is read out of it. -/
theorem samples_round_trip :
    (∀ (samples : List RowSample) (samplesPerSlot : Nat), samples.length < 0x100000000 →
      ((∃ buffer, ofSamples samples samplesPerSlot = .ok buffer) ↔
        ∃ width, Packable samples width samplesPerSlot) ∧
      ∀ buffer, ofSamples samples samplesPerSlot = .ok buffer →
        (∀ sample ∈ samples, sample.length < 0x8000000000000000) →
        ∃ view, buffer.slotsView (List.range (samples.length / samplesPerSlot)) = .ok view ∧
          view.samples = .ok samples) ∧
    ∀ (rows width samplesPerSlot : Nat) (cells : List Int64) (buffer : ResultBuffer), 0 < rows →
      Tensor.Fits ⟨[rows, 2 * width + 1], .i64 cells⟩ → buffer.InOrder rows width samplesPerSlot cells →
      (∀ row ∈ pieces rows (2 * width + 1) cells, RowSample.Readable width row) →
        ∃ view samples, buffer.cutColumns buffer.data buffer.logProb = .ok view ∧
          (rows < 0x100000000 → buffer.slotsView (List.range (rows / samplesPerSlot)) = .ok view) ∧
          view.samples = .ok samples ∧ ofSamples samples samplesPerSlot = .ok buffer := by
  constructor
  · intro samples samplesPerSlot few
    constructor
    · constructor
      · rintro ⟨buffer, ok⟩
        exact ⟨_, ofSamples_packable ok⟩
      · rintro ⟨width, packable⟩
        exact ⟨_, packable.atRowWidth.ofSamples_eq⟩
    · intro buffer ok short
      have packable := ofSamples_packable ok
      obtain rfl := Except.ok.inj (packable.ofSamples_eq.symm.trans ok)
      have all := packable.canonical.slotsView_all (by rwa [List.length_map])
      have read := packable.canonical.read_gathered
      rw [packable.rowSamples_cells short] at read
      rw [List.length_map] at all read
      exact ⟨_, all, read⟩
  · intro rows width samplesPerSlot cells buffer present fits inOrder readable
    obtain ⟨entries, canonical, rfl⟩ := inOrder.canonical fits
    have height := length_pieces rows (2 * width + 1) cells
    have some : pieces rows (2 * width + 1) cells ≠ [] := by
      rw [← List.length_pos_iff, height]
      exact present
    refine ⟨_, _, canonical.cutColumns_all, ?_, canonical.read_gathered, ?_⟩
    · intro few
      have all := canonical.slotsView_all (by rwa [height])
      rwa [height] at all ⊢
    · have packable := canonical.packable_rowSamples
      have filled : rowSamples width (pieces rows (2 * width + 1) cells) entries ≠ [] := by
        simpa [rowSamples] using some
      rw [packable.atRowWidth.ofSamples_eq, packable.rowWidth_eq filled, canonical.cells_rowSamples readable,
        canonical.scores_rowSamples some]

/-- Two rows of two tokens, in one slot. One of the log probabilities is negative zero, and one is no number but
has a sign and further bits all the same. -/
def pair : List RowSample :=
  [⟨[7, 8], [true, false], 3, .some [0x3F000000, 0xFFC00123]⟩, ⟨[9, 4], [true, true], 4, .some [0x80000000, 0]⟩]

theorem samples_round_trip_pair :
    (∃ buffer view, ofSamples pair 2 = .ok buffer ∧ buffer.slotsView [0] = .ok view ∧ view.samples = .ok pair) ∧
      ∃ buffer view samples, buffer.InOrder 1 1 1 [5, 1, 2] ∧ buffer.slotsView [0] = .ok view ∧
        view.samples = .ok samples ∧ ofSamples samples 1 = .ok buffer := by
  have packable : Packable pair 2 2 := by
    refine ⟨by decide, by decide, ⟨1, rfl⟩, ?_, .inr ?_⟩
    · intro sample member
      rcases List.mem_pair.mp member with rfl | rfl <;> exact ⟨rfl, rfl⟩
    · intro sample member
      rcases List.mem_pair.mp member with rfl | rfl <;> exact ⟨_, rfl, rfl⟩
  constructor
  · obtain ⟨packs, reads⟩ := samples_round_trip.1 pair 2 (by decide)
    obtain ⟨buffer, ok⟩ := packs.mpr ⟨2, packable⟩
    obtain ⟨view, viewed, read⟩ := reads buffer ok (by decide)
    exact ⟨buffer, view, ok, viewed, read⟩
  · have inOrder : (ofRows [[5, 1, 2]] none 1 1).InOrder 1 1 1 [5, 1, 2] := .plain rfl
    have readable : ∀ row ∈ pieces 1 3 ([5, 1, 2] : List Int64), RowSample.Readable 1 row := by
      intro row member
      obtain rfl := List.mem_singleton.mp member
      constructor
      · intro cell member
        obtain rfl := List.mem_singleton.mp member
        decide
      · intro cell member
        exact .inr (List.mem_singleton.mp member)
      · intro cell member
        obtain rfl := List.mem_singleton.mp member
        decide
    obtain ⟨view, samples, -, viewed, read, packed⟩ :=
      samples_round_trip.2 1 1 1 [5, 1, 2] _ (by decide) rfl inOrder readable
    exact ⟨_, view, samples, inOrder, viewed (by decide), read, packed⟩

end ResultBuffer

end SlotServe
