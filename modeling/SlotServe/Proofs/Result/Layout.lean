import SlotServe.Proofs.Outcome
import SlotServe.Result.Buffer

/-! What a layout that passes every check is like, and the buffers that the constructors let through. -/
namespace SlotServe

def ColumnRange.Within (width : Nat) (range : ColumnRange) : Prop :=
  range.start < range.stop ∧ range.stop ≤ width

theorem ColumnRange.Within.reaches {width : Nat} {range : ColumnRange} (within : range.Within width) :
    range.start + range.length ≤ width := by
  have := within.1
  have := within.2
  unfold ColumnRange.length
  omega

namespace ResultBuffer

variable {rows width samplesPerSlot : Nat} {tokensAt validAt lengthAt : ColumnRange}

theorem badRange_eq_none_iff (width : Nat) (ranges : List (String × ColumnRange)) :
    badRange width ranges = none ↔ ∀ range ∈ ranges, range.2.Within width := by
  unfold badRange
  rw [Option.map_eq_none_iff, List.find?_eq_none]
  apply forall₂_congr
  intro range _
  simp only [ColumnRange.isEmpty, ColumnRange.Within, Bool.or_eq_true, decide_eq_true_eq]
  unfold ColumnRange.length
  omega

theorem sharedRange_eq_none_iff (ranges : List (String × ColumnRange)) :
    sharedRange ranges = none ↔ ranges.Pairwise fun left right => left.2.overlaps right.2 = false := by
  induction ranges with
  | nil => simp [sharedRange]
  | cons first rest ih =>
    rw [sharedRange, List.pairwise_cons, ← ih]
    cases found : rest.find? fun range => first.2.overlaps range.2 with
    | some range =>
      have overlap := List.find?_some found
      have member := List.mem_of_find?_eq_some found
      simp only [reduceCtorEq, false_iff, not_and]
      intro apart
      rw [apart range member] at overlap
      cases overlap
    | none =>
      have apart := List.find?_eq_none.mp found
      simp only [iff_and_self]
      intro _ range member
      simpa using apart range member

structure Layout (rows width : Nat) (tokensAt validAt lengthAt : ColumnRange) (samplesPerSlot : Nat) : Prop where
  tokens : tokensAt.Within width
  valid : validAt.Within width
  lengths : lengthAt.Within width
  apart : tokensAt.overlaps validAt = false ∧ tokensAt.overlaps lengthAt = false ∧
    validAt.overlaps lengthAt = false
  positive : 0 < samplesPerSlot
  whole : samplesPerSlot ∣ rows

theorem Layout.reaches {slot : Nat} (layout : Layout rows width tokensAt validAt lengthAt samplesPerSlot)
    (inside : slot < rows / samplesPerSlot) : slot * samplesPerSlot + samplesPerSlot ≤ rows := by
  have below := Nat.mul_le_mul_right samplesPerSlot (Nat.succ_le_of_lt inside)
  rwa [Nat.succ_mul, Nat.div_mul_cancel layout.whole] at below

theorem layoutFault_eq_none_iff :
    layoutFault rows width tokensAt validAt lengthAt samplesPerSlot = none ↔
      Layout rows width tokensAt validAt lengthAt samplesPerSlot := by
  have bad := badRange_eq_none_iff width
    [("tokens_idx", tokensAt), ("valid_idx", validAt), ("length_idx", lengthAt)]
  have shared := sharedRange_eq_none_iff
    [("tokens_idx", tokensAt), ("valid_idx", validAt), ("length_idx", lengthAt)]
  simp only [List.forall_mem_cons, List.not_mem_nil, false_implies, implies_true, and_true] at bad
  simp only [List.pairwise_cons, List.forall_mem_cons, List.not_mem_nil, false_implies, implies_true,
    and_true, List.Pairwise.nil] at shared
  unfold layoutFault
  constructor
  · intro sound
    dsimp only at sound
    split at sound
    next => cases sound
    next inside =>
      split at sound
      next => cases sound
      next separate =>
        obtain ⟨tokens, valid, lengths⟩ := bad.mp inside
        obtain ⟨⟨first, second⟩, third⟩ := shared.mp separate
        split at sound
        next => cases sound
        next even => exact ⟨tokens, valid, lengths, ⟨first, second, third⟩, by omega,
          Nat.dvd_of_mod_eq_zero (by omega)⟩
  · rintro ⟨tokens, valid, lengths, ⟨first, second, third⟩, positive, whole⟩
    have even : ¬ (samplesPerSlot = 0 ∨ rows % samplesPerSlot ≠ 0) := by
      rw [Nat.mod_eq_zero_of_dvd whole]
      omega
    dsimp only
    rw [bad.mpr ⟨tokens, valid, lengths⟩, shared.mpr ⟨⟨first, second⟩, third⟩]
    exact if_neg even

theorem numSlots_laid {buffer : ResultBuffer} (shape : buffer.data.shape = [rows, width])
    (layout : Layout rows width buffer.tokensAt buffer.validAt buffer.lengthAt buffer.samplesPerSlot) :
    buffer.numSlots = .ok (rows / buffer.samplesPerSlot) := by
  unfold numSlots numRows Tensor.size
  rw [shape]
  exact if_neg (Nat.ne_of_gt layout.positive)

theorem checkSlot_laid {buffer : ResultBuffer} (shape : buffer.data.shape = [rows, width])
    (layout : Layout rows width buffer.tokensAt buffer.validAt buffer.lengthAt buffer.samplesPerSlot) (slot : Nat) :
    buffer.checkSlot slot = if rows / buffer.samplesPerSlot ≤ slot then
      .error (.slotOutOfRange slot (rows / buffer.samplesPerSlot)) else .ok () := by
  unfold checkSlot
  rw [numSlots_laid shape layout]
  by_cases outside : rows / buffer.samplesPerSlot ≤ slot
  · rw [if_pos outside]
    exact if_pos outside
  · rw [if_neg outside]
    exact if_neg outside

/-- The constructors accept the buffer, over a matrix of so many rows of 64-bit cells. Every other way to
make a buffer lays out its matrix with the first of these two, and may then attach log probabilities. -/
inductive Accepted (rows : Nat) : ResultBuffer → Prop
  | ofData {width samplesPerSlot : Nat} {cells : List Int64} {tokensAt validAt lengthAt : ColumnRange}
      {buffer : ResultBuffer} (fits : Tensor.Fits ⟨[rows, width], .i64 cells⟩)
      (ok : ofData ⟨[rows, width], .i64 cells⟩ tokensAt validAt lengthAt samplesPerSlot = .ok buffer) :
      Accepted rows buffer
  | withLogProb {buffer after : ResultBuffer} {height entries : Nat} {cells : Cells}
      (accepted : Accepted rows buffer) (fits : Tensor.Fits ⟨[height, entries], cells⟩)
      (ok : buffer.withLogProb ⟨[height, entries], cells⟩ = .ok after) : Accepted rows after

structure Formed (rows width : Nat) (cells : List Int64) (buffer : ResultBuffer) : Prop where
  data : buffer.data = ⟨[rows, width], .i64 cells⟩
  fits : Tensor.Fits ⟨[rows, width], .i64 cells⟩
  layout : Layout rows width buffer.tokensAt buffer.validAt buffer.lengthAt buffer.samplesPerSlot
  scored : ∀ logProb, buffer.logProb = some logProb →
    ∃ entries cells, logProb = ⟨[rows, entries], cells⟩ ∧ logProb.Fits

theorem ofData_eq_ok_iff {cells : Cells} {buffer : ResultBuffer} :
    ofData ⟨[rows, width], cells⟩ tokensAt validAt lengthAt samplesPerSlot = .ok buffer ↔
      Layout rows width tokensAt validAt lengthAt samplesPerSlot ∧
        buffer = ⟨⟨[rows, width], cells⟩, tokensAt, validAt, lengthAt, samplesPerSlot, none⟩ := by
  rw [← layoutFault_eq_none_iff]
  unfold ofData
  dsimp only
  cases layoutFault rows width tokensAt validAt lengthAt samplesPerSlot with
  | some fault => simp
  | none => simp [eq_comm]

theorem Formed.withLogProb_iff {cells : List Int64} {buffer after : ResultBuffer} {logProb : Tensor}
    (formed : buffer.Formed rows width cells) {entries height : Nat} (shape : logProb.shape = [height, entries]) :
    buffer.withLogProb logProb = .ok after ↔
      height = rows ∧ after = { buffer with logProb := some logProb } := by
  have counted : buffer.numRows = .ok rows := by
    unfold numRows
    rw [formed.data]
    rfl
  unfold withLogProb
  rw [counted, shape]
  by_cases same : height = rows
  · simp [same, bind, Except.bind, pure, Except.pure, eq_comm]
  · simp [same, bind, Except.bind, throw, throwThe, MonadExceptOf.throw]

theorem Accepted.formed {buffer : ResultBuffer} (accepted : buffer.Accepted rows) :
    ∃ width cells, buffer.Formed rows width cells := by
  induction accepted with
  | @ofData width _ cells _ _ _ _ fits ok =>
    obtain ⟨layout, rfl⟩ := ofData_eq_ok_iff.mp ok
    exact ⟨width, cells, rfl, fits, layout, fun _ scored => by cases scored⟩
  | @withLogProb before after height entries cells _ fits ok ih =>
    obtain ⟨width, data, formed⟩ := ih
    obtain ⟨rfl, rfl⟩ := (formed.withLogProb_iff rfl).mp ok
    refine ⟨width, data, formed.data, formed.fits, formed.layout, ?_⟩
    rintro logProb ⟨⟩
    exact ⟨entries, cells, rfl, fits⟩

end ResultBuffer

end SlotServe
