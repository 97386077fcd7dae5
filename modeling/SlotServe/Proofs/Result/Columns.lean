import SlotServe.Proofs.Result.Stitched

/-! Layouts in terms of single columns. A matrix is laid out exactly if each range holds a column, all columns of
ranges are columns of the matrix, and none is held twice. The ends of two ranges tell whether they share a column
only where both hold one, so the ranges are looked at one by one before they are compared. -/
namespace SlotServe

namespace ColumnRange

def Apart (left right : ColumnRange) : Prop := ∀ column, ¬(left.Holds column ∧ right.Holds column)

theorem overlaps_iff {left right : ColumnRange} (some : left.start < left.stop) (other : right.start < right.stop) :
    left.overlaps right = true ↔ ∃ column, left.Holds column ∧ right.Holds column := by
  simp only [overlaps, Bool.and_eq_true, decide_eq_true_eq, Holds]
  constructor
  · rintro ⟨first, second⟩
    -- The later of the two starts is a column of both.
    exact ⟨max left.start right.start, ⟨by omega, by omega⟩, by omega, by omega⟩
  · rintro ⟨column, ⟨_, _⟩, _, _⟩
    exact ⟨by omega, by omega⟩

theorem Within.apart_iff {width : Nat} {left right : ColumnRange} (inside : left.Within width)
    (other : right.Within width) : left.overlaps right = false ↔ left.Apart right := by
  rw [← Bool.not_eq_true, overlaps_iff inside.1 other.1, not_exists]
  rfl

/-- An empty range shares no column with any other, whatever its ends say. -/
example : overlaps ⟨0, 4⟩ ⟨2, 2⟩ = true ∧ Apart ⟨0, 4⟩ ⟨2, 2⟩ :=
  ⟨rfl, fun _ both => absurd (Nat.lt_of_le_of_lt both.2.1 both.2.2) (by decide)⟩

end ColumnRange

namespace ResultBuffer

def namedRanges (tokensAt validAt lengthAt : ColumnRange) : List (String × ColumnRange) :=
  [("tokens_idx", tokensAt), ("valid_idx", validAt), ("length_idx", lengthAt)]

inductive Blames (shape : List Nat) (named : List (String × ColumnRange)) (samplesPerSlot : Nat) : LayoutFault → Prop
  | notFlat (other : ∀ rows width, shape ≠ [rows, width]) : Blames shape named samplesPerSlot (.notFlat shape)
  | badColumns {rows width : Nat} {name : String} {range : ColumnRange} (flat : shape = [rows, width])
      (member : (name, range) ∈ named) (outside : ¬range.Within width) :
      Blames shape named samplesPerSlot (.badColumns name range.start range.stop width)
  | sharedColumns {rows width : Nat} {left right : String × ColumnRange} (flat : shape = [rows, width])
      (inside : ∀ range ∈ named, range.2.Within width) (pair : [left, right].Sublist named)
      (shared : ∃ column, left.2.Holds column ∧ right.2.Holds column) :
      Blames shape named samplesPerSlot (.sharedColumns left.1 right.1)
  | unevenSlots {rows width : Nat} (flat : shape = [rows, width]) (inside : ∀ range ∈ named, range.2.Within width)
      (apart : named.Pairwise fun left right => left.2.Apart right.2)
      (uneven : samplesPerSlot = 0 ∨ ¬samplesPerSlot ∣ rows) :
      Blames shape named samplesPerSlot (.unevenSlots rows samplesPerSlot)

variable {rows width samplesPerSlot : Nat} {tokensAt validAt lengthAt : ColumnRange} {fault : LayoutFault}

theorem badRange_blames {ranges : List (String × ColumnRange)} (found : badRange width ranges = some fault) :
    ∃ range ∈ ranges, ¬range.2.Within width ∧ fault = .badColumns range.1 range.2.start range.2.stop width := by
  obtain ⟨range, first, rfl⟩ := Option.map_eq_some_iff.mp found
  refine ⟨range, List.mem_of_find?_eq_some first, ?_, rfl⟩
  have bad := List.find?_some first
  simp only [ColumnRange.isEmpty, Bool.or_eq_true, decide_eq_true_eq] at bad
  unfold ColumnRange.length at bad
  unfold ColumnRange.Within
  omega

theorem sharedRange_blames {ranges : List (String × ColumnRange)} (found : sharedRange ranges = some fault) :
    ∃ left right, [left, right].Sublist ranges ∧ left.2.overlaps right.2 = true ∧
      fault = .sharedColumns left.1 right.1 := by
  induction ranges with
  | nil => cases found
  | cons first rest ih =>
    unfold sharedRange at found
    cases second : rest.find? fun range => first.2.overlaps range.2 with
    | some range =>
      rw [second] at found
      cases found
      have later : [range].Sublist rest := List.singleton_sublist.mpr (List.mem_of_find?_eq_some second)
      have overlap := List.find?_some second
      exact ⟨first, range, later.cons_cons first, overlap, rfl⟩
    | none =>
      rw [second] at found
      obtain ⟨left, right, pair, overlap, blame⟩ := ih found
      exact ⟨left, right, pair.cons first, overlap, blame⟩

/-- Which check refuses a layout, and of what. -/
theorem layoutFault_blames
    (found : layoutFault rows width tokensAt validAt lengthAt samplesPerSlot = some fault) :
    Blames [rows, width] (namedRanges tokensAt validAt lengthAt) samplesPerSlot fault := by
  unfold layoutFault at found
  rw [← namedRanges] at found
  dsimp only at found
  cases bad : badRange width (namedRanges tokensAt validAt lengthAt) with
  | some cause =>
    rw [bad] at found
    cases found
    obtain ⟨range, member, outside, rfl⟩ := badRange_blames bad
    exact .badColumns rfl member outside
  | none =>
    have inside := (badRange_eq_none_iff width _).mp bad
    rw [bad] at found
    cases shared : sharedRange (namedRanges tokensAt validAt lengthAt) with
    | some cause =>
      rw [shared] at found
      cases found
      obtain ⟨left, right, pair, overlap, rfl⟩ := sharedRange_blames shared
      have listed := pair.subset
      have first := inside left (listed (by simp))
      have second := inside right (listed (by simp))
      exact .sharedColumns rfl inside pair ((ColumnRange.overlaps_iff first.1 second.1).mp overlap)
    | none =>
      have apart := (sharedRange_eq_none_iff _).mp shared
      rw [shared] at found
      dsimp only at found
      split at found
      next uneven =>
        cases found
        refine .unevenSlots rfl inside ?_ (uneven.imp_right fun rest whole => rest (Nat.mod_eq_zero_of_dvd whole))
        exact apart.imp_of_mem fun first second parted =>
          (ColumnRange.Within.apart_iff (inside _ first) (inside _ second)).mp parted
      next => cases found

theorem layout_iff_apart : Layout rows width tokensAt validAt lengthAt samplesPerSlot ↔
    (∀ range ∈ [tokensAt, validAt, lengthAt], range.Within width) ∧
      [tokensAt, validAt, lengthAt].Pairwise ColumnRange.Apart ∧ 1 ≤ samplesPerSlot ∧ samplesPerSlot ∣ rows := by
  simp only [List.forall_mem_cons, List.pairwise_cons, List.not_mem_nil, false_implies, implies_true, and_true,
    List.Pairwise.nil]
  constructor
  · rintro ⟨tokens, valid, lengths, ⟨first, second, third⟩, positive, whole⟩
    exact ⟨⟨tokens, valid, lengths⟩, ⟨⟨(tokens.apart_iff valid).mp first, (tokens.apart_iff lengths).mp second⟩,
      (valid.apart_iff lengths).mp third⟩, positive, whole⟩
  · rintro ⟨⟨tokens, valid, lengths⟩, ⟨⟨first, second⟩, third⟩, positive, whole⟩
    exact ⟨tokens, valid, lengths, ⟨(tokens.apart_iff valid).mpr first, (tokens.apart_iff lengths).mpr second,
      (valid.apart_iff lengths).mpr third⟩, positive, whole⟩

/-- A buffer is made of any matrix with a layout that suits it, and what is no such matrix is refused. -/
theorem ofData_outcome (data : Tensor) (tokensAt validAt lengthAt : ColumnRange) (samplesPerSlot : Nat) :
    (∃ rows width, data.shape = [rows, width] ∧ Layout rows width tokensAt validAt lengthAt samplesPerSlot ∧
      ofData data tokensAt validAt lengthAt samplesPerSlot =
        .ok ⟨data, tokensAt, validAt, lengthAt, samplesPerSlot, none⟩) ∨
    ∃ cause, ofData data tokensAt validAt lengthAt samplesPerSlot = .error (.layout cause) ∧
      Blames data.shape (namedRanges tokensAt validAt lengthAt) samplesPerSlot cause := by
  obtain ⟨shape, cells⟩ := data
  by_cases flat : ∃ rows width, shape = [rows, width]
  · obtain ⟨rows, width, rfl⟩ := flat
    cases found : layoutFault rows width tokensAt validAt lengthAt samplesPerSlot with
    | none =>
      have layout := layoutFault_eq_none_iff.mp found
      exact .inl ⟨rows, width, rfl, layout, ofData_eq_ok_iff.mpr ⟨layout, rfl⟩⟩
    | some cause =>
      refine .inr ⟨cause, ?_, layoutFault_blames found⟩
      unfold ofData
      dsimp only
      rw [found]
  · refine .inr ⟨.notFlat shape, ?_, .notFlat fun rows width same => flat ⟨rows, width, same⟩⟩
    unfold ofData
    split
    next rows width same => exact absurd ⟨rows, width, same⟩ flat
    next => rfl

/-- A matrix is laid out exactly if each of the three ranges holds a column and ends within the matrix, no column
is held twice and the rows come in whole slots. A refusal tells what is amiss. Each slot of an accepted buffer,
with log probabilities or without, has a view: its rows lie within the tensors, and its columns too. -/
theorem accepted_iff_columns_apart (data : Tensor) (tokensAt validAt lengthAt : ColumnRange) (samplesPerSlot : Nat) :
    ((∃ buffer, ofData data tokensAt validAt lengthAt samplesPerSlot = .ok buffer) ↔
      ∃ rows width, data.shape = [rows, width] ∧
        (∀ range ∈ [tokensAt, validAt, lengthAt], range.start < range.stop ∧ range.stop ≤ width) ∧
        [tokensAt, validAt, lengthAt].Pairwise
          (fun left right => ∀ column, ¬(left.Holds column ∧ right.Holds column)) ∧
        1 ≤ samplesPerSlot ∧ samplesPerSlot ∣ rows) ∧
    ((¬∃ buffer, ofData data tokensAt validAt lengthAt samplesPerSlot = .ok buffer) →
      ∃ cause, ofData data tokensAt validAt lengthAt samplesPerSlot = .error (.layout cause) ∧
        Blames data.shape (namedRanges tokensAt validAt lengthAt) samplesPerSlot cause) ∧
    ∀ buffer, ofData data tokensAt validAt lengthAt samplesPerSlot = .ok buffer →
      ∀ scored, scored = buffer ∨ (∃ logProb, buffer.withLogProb logProb = .ok scored) →
        ∃ rows width, data.shape = [rows, width] ∧ scored.numSlots = .ok (rows / samplesPerSlot) ∧
          ∀ slot < rows / samplesPerSlot,
            slot * samplesPerSlot + samplesPerSlot ≤ rows ∧
            (∀ logProb, scored.logProb = some logProb →
              slot * samplesPerSlot + samplesPerSlot ≤ logProb.height) ∧
            tokensAt.start + tokensAt.length ≤ width ∧ validAt.start + validAt.length ≤ width ∧
            lengthAt.start + 1 ≤ width ∧
            ∃ view, scored.slotView slot = .ok view ∧ scored.FullSlot view := by
  have outcome := ofData_outcome data tokensAt validAt lengthAt samplesPerSlot
  refine ⟨⟨?_, ?_⟩, fun refused => ?_, ?_⟩
  · rintro ⟨buffer, ok⟩
    obtain ⟨⟨rows, width, shape, layout⟩, -⟩ := ofData_links ok
    exact ⟨rows, width, shape, layout_iff_apart.mp layout⟩
  · rintro ⟨rows, width, shape, suits⟩
    obtain ⟨_, cells⟩ := data
    obtain rfl : _ = [rows, width] := shape
    exact ⟨_, ofData_eq_ok_iff.mpr ⟨layout_iff_apart.mpr suits, rfl⟩⟩
  · rcases outcome with ⟨_, _, _, _, ok⟩ | refusal
    · exact absurd ⟨_, ok⟩ refused
    · exact refusal
  · intro buffer ok scored made
    obtain ⟨⟨rows, width, shape, layout⟩, rfl⟩ := ofData_links ok
    have height : data.height = rows := congrArg (·.head?.getD 0) shape
    obtain ⟨logProb, rfl, heights⟩ : ∃ logProb, scored = ⟨data, tokensAt, validAt, lengthAt, samplesPerSlot, logProb⟩ ∧
        ∀ tensor, logProb = some tensor → tensor.height = rows := by
      rcases made with rfl | ⟨logProb, attached⟩
      · exact ⟨none, rfl, nofun⟩
      · obtain ⟨same, rfl⟩ := (withLogProb_iff shape).mp attached
        refine ⟨some logProb, rfl, ?_⟩
        rintro _ ⟨⟩
        exact same.trans height
    refine ⟨rows, width, shape, numSlots_laid shape layout, fun slot inside => ?_⟩
    have reach := layout.reaches inside
    exact ⟨reach, fun tensor held => (heights tensor held).symm ▸ reach, layout.tokens.reaches, layout.valid.reaches,
      Nat.lt_of_lt_of_le layout.lengths.1 layout.lengths.2, slotView_within layout shape heights inside⟩

/-- Columns in another order than usual, with gaps between them, and the view of the second slot. A range that ends
before it starts is refused. -/
theorem scattered_columns_accepted :
    (∃ buffer view, ofData (.zeros [4, 7]) ⟨5, 7⟩ ⟨3, 4⟩ ⟨0, 2⟩ 2 = .ok buffer ∧ buffer.slotView 1 = .ok view ∧
      buffer.FullSlot view) ∧
    ∃ cause, ofData (.zeros [4, 7]) ⟨7, 5⟩ ⟨3, 4⟩ ⟨0, 2⟩ 2 = .error (.layout cause) ∧
      Blames [4, 7] (namedRanges ⟨7, 5⟩ ⟨3, 4⟩ ⟨0, 2⟩) 2 cause := by
  obtain ⟨accepted, -, views⟩ := accepted_iff_columns_apart (.zeros [4, 7]) ⟨5, 7⟩ ⟨3, 4⟩ ⟨0, 2⟩ 2
  obtain ⟨inverted, refusals, -⟩ := accepted_iff_columns_apart (.zeros [4, 7]) ⟨7, 5⟩ ⟨3, 4⟩ ⟨0, 2⟩ 2
  constructor
  · have apart : [(⟨5, 7⟩ : ColumnRange), ⟨3, 4⟩, ⟨0, 2⟩].Pairwise
        (fun left right => ∀ column, ¬(left.Holds column ∧ right.Holds column)) := by
      simp only [List.pairwise_cons, List.forall_mem_cons, List.not_mem_nil, false_implies, implies_true, and_true,
        List.Pairwise.nil, ColumnRange.Holds]
      refine ⟨⟨?_, ?_⟩, ?_⟩ <;> (intro column both; omega)
    obtain ⟨buffer, ok⟩ := accepted.mpr ⟨4, 7, rfl, by decide, apart, by decide, by decide⟩
    obtain ⟨rows, width, shape, -, slots⟩ := views buffer ok buffer (.inl rfl)
    obtain ⟨rfl, rfl⟩ : 4 = rows ∧ 7 = width := by simpa [Tensor.zeros] using shape
    obtain ⟨-, -, -, -, -, view, viewed, full⟩ := slots 1 (by decide)
    exact ⟨buffer, view, ok, viewed, full⟩
  · refine refusals fun made => ?_
    obtain ⟨rows, width, -, inside, -⟩ := inverted.mp made
    exact absurd (inside ⟨7, 5⟩ (by simp)).1 (by decide)

end ResultBuffer

end SlotServe
