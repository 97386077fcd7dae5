import SlotServe.Proofs.Result.Layout
import SlotServe.Proofs.Tensor.Rows

/-! Views by address. Slot `s` owns the `samplesPerSlot` rows from `s * samplesPerSlot` on, and a view of
some slots holds their rows one after the other, each cut to the columns of the layout. A run of rows that
is cut out and rows that are picked by number make the same view. -/
namespace SlotServe

def addresses (samplesPerSlot : Nat) (slots : List Nat) : List Nat :=
  slots.flatMap fun slot => (List.range samplesPerSlot).map (slot * samplesPerSlot + ·)

section

variable (samplesPerSlot : Nat) (slots others : List Nat)

theorem addresses_append :
    addresses samplesPerSlot (slots ++ others) = addresses samplesPerSlot slots ++ addresses samplesPerSlot others :=
  List.flatMap_append

theorem addresses_single (slot : Nat) :
    addresses samplesPerSlot [slot] = List.range' (slot * samplesPerSlot) samplesPerSlot := by
  simp [addresses, List.range'_eq_map_range]

theorem addresses_grid :
    Grid slots.length samplesPerSlot
      (slots.map fun slot => (List.range samplesPerSlot).map (slot * samplesPerSlot + ·)) := by
  refine ⟨List.length_map _, ofWidth_map fun slot _ => ?_⟩
  simp

theorem length_addresses : (addresses samplesPerSlot slots).length = slots.length * samplesPerSlot := by
  have grid := addresses_grid samplesPerSlot slots
  rw [addresses, List.flatMap_def, grid.uniform.length_flatten, grid.height]

variable {samplesPerSlot slots}

theorem getElem?_addresses {place slot row : Nat} (found : slots[place]? = some slot)
    (inside : row < samplesPerSlot) :
    (addresses samplesPerSlot slots)[place * samplesPerSlot + row]? = some (slot * samplesPerSlot + row) := by
  have bound := (List.getElem?_eq_some_iff.mp found).1
  rw [addresses, List.flatMap_def, (addresses_grid samplesPerSlot slots).getElem?_flatten bound inside,
    List.getElem?_map, found]
  simp [inside]

theorem lt_of_mem_addresses {rows row : Nat} (within : ∀ slot ∈ slots, slot < rows / samplesPerSlot)
    (member : row ∈ addresses samplesPerSlot slots) : row < rows := by
  obtain ⟨slot, present, own⟩ := List.mem_flatMap.mp member
  obtain ⟨offset, inside, rfl⟩ := List.mem_map.mp own
  have inside := List.mem_range.mp inside
  have below := Nat.mul_le_mul_right samplesPerSlot (within slot present)
  have whole := Nat.div_mul_le_self rows samplesPerSlot
  rw [Nat.succ_mul] at below
  omega

theorem addresses_range (samplesPerSlot count : Nat) :
    addresses samplesPerSlot (List.range count) = List.range (count * samplesPerSlot) := by
  induction count with
  | zero => simp [addresses]
  | succ count ih =>
    rw [List.range_succ, addresses_append, ih, Nat.succ_mul, List.range_add]
    simp [addresses]

end

namespace ResultBuffer

def gathered (buffer : ResultBuffer) (chosen : List Nat) : SlotView :=
  let cut := fun start count =>
    (Cells.gather (volume buffer.data.shape.tail) chosen start count buffer.data.cells)
  { tokens := ⟨[chosen.length, buffer.tokensAt.length], cut buffer.tokensAt.start buffer.tokensAt.length⟩
    valid := ⟨[chosen.length, buffer.validAt.length], cut buffer.validAt.start buffer.validAt.length⟩
    lengths := ⟨[chosen.length], cut buffer.lengthAt.start 1⟩
    logProb := buffer.logProb.map fun logProb =>
      ⟨chosen.length :: logProb.shape.tail,
        logProb.cells.gather (volume logProb.shape.tail) chosen 0 (volume logProb.shape.tail)⟩ }

namespace Formed

variable {rows width : Nat} {cells : List Int64} {buffer : ResultBuffer}

theorem checkSlot_eq (formed : buffer.Formed rows width cells) (slot : Nat) :
    buffer.checkSlot slot = if rows / buffer.samplesPerSlot ≤ slot then
      .error (.slotOutOfRange slot (rows / buffer.samplesPerSlot)) else .ok () :=
  checkSlot_laid (congrArg Tensor.shape formed.data) formed.layout slot

theorem rowsOf_eq (formed : buffer.Formed rows width cells) (few : rows < 0x100000000) (slots : List Nat) :
    buffer.rowsOf slots = match slots.find? (rows / buffer.samplesPerSlot ≤ ·) with
      | some slot => .error (.slotOutOfRange slot (rows / buffer.samplesPerSlot))
      | none => .ok (addresses buffer.samplesPerSlot slots) := by
  induction slots with
  | nil => rfl
  | cons slot rest ih =>
    rw [rowsOf, formed.checkSlot_eq, ih, List.find?_cons]
    by_cases outside : rows / buffer.samplesPerSlot ≤ slot
    · simp [outside, bind, Except.bind]
    · have own : ((List.range buffer.samplesPerSlot).map fun row =>
          (slot * buffer.samplesPerSlot + row) % 0x100000000) =
          (List.range buffer.samplesPerSlot).map (slot * buffer.samplesPerSlot + ·) := by
        apply List.map_congr_left
        intro row member
        have inside : ∀ other ∈ [slot], other < rows / buffer.samplesPerSlot := by simpa using outside
        have own : slot * buffer.samplesPerSlot + row ∈ addresses buffer.samplesPerSlot [slot] := by
          simpa [addresses] using member
        have bound := lt_of_mem_addresses inside own
        exact Nat.mod_eq_of_lt (by omega)
      simp only [outside, if_false, decide_false, bind, Except.bind, own]
      cases rest.find? (rows / buffer.samplesPerSlot ≤ ·) with
      | some slot => rfl
      | none => rfl

theorem cutColumns_eq (formed : buffer.Formed rows width cells) {chosen : List Nat}
    (within : ∀ row ∈ chosen, row < rows) (logProb : Option Tensor) :
    buffer.cutColumns ⟨[chosen.length, width], (Cells.i64 cells).gather width chosen 0 width⟩ logProb =
      .ok { buffer.gathered chosen with logProb } := by
  have wide : volume buffer.data.shape.tail = width := by simp [formed.data, volume]
  have held : buffer.data.cells = .i64 cells := by rw [formed.data]
  have tokens := formed.layout.tokens.reaches
  have valid := formed.layout.valid.reaches
  have lengths : buffer.lengthAt.start + 1 ≤ width := by
    have := formed.layout.lengths
    unfold ColumnRange.Within at this
    omega
  unfold cutColumns gathered
  by_cases empty : chosen = []
  · subst empty
    simp [Tensor.size, ofTensor, bind, Except.bind, pure, Except.pure, Tensor.zeros, volume, held,
      Cells.gather, Cells.rearrange]
  · have some : chosen.length ≠ 0 := by simpa using empty
    simp only [Tensor.size, List.getElem?_cons_zero, ofTensor, bind, Except.bind, pure, Except.pure, some, if_false,
      Tensor.narrow_columns_eq formed.fits within tokens, Tensor.narrow_columns_eq formed.fits within valid,
      Tensor.narrow_columns_eq formed.fits within lengths, Tensor.squeeze, List.getElem?_cons_succ, if_true, wide,
      held]
    rfl

theorem slotsView_eq (formed : buffer.Formed rows width cells) (few : rows < 0x100000000) {slots : List Nat}
    (room : slots.length * buffer.samplesPerSlot < Size.limit)
    (addressable : Size.addressable (slots.length * buffer.samplesPerSlot) 4 = true) :
    buffer.slotsView slots = match slots.find? (rows / buffer.samplesPerSlot ≤ ·) with
      | some slot => .error (.slotOutOfRange slot (rows / buffer.samplesPerSlot))
      | none => .ok (buffer.gathered (addresses buffer.samplesPerSlot slots)) := by
  have counted : Size.mul? slots.length buffer.samplesPerSlot = some (slots.length * buffer.samplesPerSlot) :=
    if_pos room
  unfold slotsView
  simp only [counted, orDefect, bind, Except.bind, addressable, Bool.not_true, if_false, Bool.false_eq_true,
    formed.rowsOf_eq few]
  cases outside : slots.find? (rows / buffer.samplesPerSlot ≤ ·) with
  | some slot => rfl
  | none =>
    have inside : ∀ row ∈ addresses buffer.samplesPerSlot slots, row < rows := by
      intro row member
      refine lt_of_mem_addresses (fun slot present => ?_) member
      simpa using List.find?_eq_none.mp outside slot present
    simp only [formed.data, Tensor.selectRows_eq inside, ofTensor]
    cases scored : buffer.logProb with
    | none =>
      simp only [pure, Except.pure, formed.cutColumns_eq inside]
      simp [gathered, scored]
    | some logProb =>
      obtain ⟨entries, kept, rfl, -⟩ := formed.scored logProb scored
      simp only [Tensor.selectRows_eq inside, Functor.map, Except.map, formed.cutColumns_eq inside]
      simp [gathered, scored, volume]

theorem slotView_eq (formed : buffer.Formed rows width cells) (slot : Nat) :
    buffer.slotView slot = if rows / buffer.samplesPerSlot ≤ slot then
      .error (.slotOutOfRange slot (rows / buffer.samplesPerSlot))
    else .ok (buffer.gathered (addresses buffer.samplesPerSlot [slot])) := by
  unfold slotView
  rw [formed.checkSlot_eq]
  by_cases outside : rows / buffer.samplesPerSlot ≤ slot
  · rw [if_pos outside, if_pos outside]
    rfl
  · rw [if_neg outside, if_neg outside, addresses_single]
    have reach : slot * buffer.samplesPerSlot + buffer.samplesPerSlot ≤ rows :=
      formed.layout.reaches (Nat.not_le.mp outside)
    have inside : ∀ row ∈ List.range' (slot * buffer.samplesPerSlot) buffer.samplesPerSlot, row < rows := by
      intro row member
      have := List.mem_range'_1.mp member
      omega
    have run : (List.range' (slot * buffer.samplesPerSlot) buffer.samplesPerSlot).length =
        buffer.samplesPerSlot := List.length_range'
    have cut := formed.cutColumns_eq inside
    rw [run] at cut
    simp only [bind, Except.bind, formed.data, Tensor.narrow_rows_eq formed.fits reach, ofTensor]
    cases scored : buffer.logProb with
    | none =>
      simp only [pure, Except.pure, cut]
      simp [gathered, scored]
    | some logProb =>
      obtain ⟨entries, kept, rfl, fits⟩ := formed.scored logProb scored
      simp only [Tensor.narrow_rows_eq fits reach, Functor.map, Except.map, cut]
      simp [gathered, scored, volume]

end Formed

end ResultBuffer

namespace SlotView

def append (upper lower : SlotView) : Except TensorFault SlotView := do
  let tokens ← upper.tokens.append lower.tokens 0
  let valid ← upper.valid.append lower.valid 0
  let lengths ← upper.lengths.append lower.lengths 0
  let logProb ← match upper.logProb, lower.logProb with
    | some above, some below => some <$> above.append below 0
    | none, none => pure none
    | _, _ => throw .shapeMismatch
  return ⟨tokens, valid, lengths, logProb⟩

structure Sized (buffer : ResultBuffer) (count : Nat) (view : SlotView) : Prop where
  tokens : view.tokens.shape = [count, buffer.tokensAt.length] ∧ view.tokens.Fits
  valid : view.valid.shape = [count, buffer.validAt.length] ∧ view.valid.Fits
  lengths : view.lengths.shape = [count] ∧ view.lengths.Fits
  logProb : Option.Rel (fun part whole => part.shape = count :: whole.shape.tail ∧ part.Fits)
    view.logProb buffer.logProb

structure ShowsRow (buffer : ResultBuffer) (view : SlotView) (place row : Nat) : Prop where
  present : (buffer.data.slice? row).isSome
  tokens : view.tokens.slice? place =
    (buffer.data.slice? row).map (·.stretch buffer.tokensAt.start buffer.tokensAt.length)
  valid : view.valid.slice? place =
    (buffer.data.slice? row).map (·.stretch buffer.validAt.start buffer.validAt.length)
  lengths : view.lengths.slice? place = (buffer.data.slice? row).map (·.stretch buffer.lengthAt.start 1)
  logProb : Option.Rel (fun part whole => (whole.slice? row).isSome ∧ part.slice? place = whole.slice? row)
    view.logProb buffer.logProb

end SlotView

namespace ResultBuffer

namespace Formed

variable {rows width : Nat} {cells : List Int64} {buffer : ResultBuffer}
  (formed : buffer.Formed rows width cells) {chosen others : List Nat}
  (within : ∀ row ∈ chosen, row < rows)

include formed

theorem wide : volume buffer.data.shape.tail = width := by
  rw [formed.data]
  simp [volume]

theorem length_reaches : buffer.lengthAt.start + 1 ≤ width := by
  have := formed.layout.lengths
  unfold ColumnRange.Within at this
  omega

include within

theorem gathered_sized : (buffer.gathered chosen).Sized buffer chosen.length := by
  have part {start count : Nat} (inside : start + count ≤ width) :
      ((Cells.i64 cells).gather width chosen start count).length = chosen.length * count :=
    Tensor.length_gather formed.fits within inside
  refine ⟨⟨rfl, ?_⟩, ⟨rfl, ?_⟩, ⟨rfl, ?_⟩, ?_⟩
  · simpa [gathered, formed.wide, Tensor.Fits, volume, formed.data] using part formed.layout.tokens.reaches
  · simpa [gathered, formed.wide, Tensor.Fits, volume, formed.data] using part formed.layout.valid.reaches
  · simpa [gathered, formed.wide, Tensor.Fits, volume, formed.data] using part formed.length_reaches
  · unfold gathered
    cases scored : buffer.logProb with
    | none => exact .none
    | some logProb =>
      obtain ⟨entries, kept, rfl, fits⟩ := formed.scored logProb scored
      refine .some ⟨rfl, ?_⟩
      simpa [Tensor.Fits, volume] using Tensor.length_gather fits within (Nat.le_of_eq (Nat.zero_add entries))

theorem gathered_showsRow {place row : Nat} (found : chosen[place]? = some row) :
    (buffer.gathered chosen).ShowsRow buffer place row := by
  have inside := (List.getElem?_eq_some_iff.mp found).1
  have bound := within row (List.mem_of_getElem? found)
  have own : buffer.data.slice? row = some ((Cells.i64 cells).stretch (row * width) width) := by
    rw [formed.data]
    exact Tensor.slice?_matrix bound
  have held : buffer.data.cells = .i64 cells := by rw [formed.data]
  have cut {start count : Nat} (reach : start + count ≤ width) :
      ((Cells.i64 cells).gather width chosen start count).stretch (place * count) count =
        ((Cells.i64 cells).stretch (row * width) width).stretch start count := by
    rw [Tensor.stretch_gather formed.fits within reach found, Cells.stretch_stretch reach]
  constructor
  · rw [own]
    rfl
  · rw [own, Option.map_some, ← cut formed.layout.tokens.reaches]
    simp only [gathered, formed.wide, held]
    exact Tensor.slice?_matrix inside
  · rw [own, Option.map_some, ← cut formed.layout.valid.reaches]
    simp only [gathered, formed.wide, held]
    exact Tensor.slice?_matrix inside
  · rw [own, Option.map_some, ← cut formed.length_reaches, Nat.mul_one]
    simp only [gathered, formed.wide, held]
    exact Tensor.slice?_vector inside
  · unfold gathered
    cases scored : buffer.logProb with
    | none => exact .none
    | some logProb =>
      obtain ⟨entries, kept, rfl, fits⟩ := formed.scored logProb scored
      have copied := Tensor.stretch_gather fits within (Nat.le_of_eq (Nat.zero_add entries)) found
      have whole : Tensor.slice? ⟨[rows, entries], kept⟩ row = some (kept.stretch (row * entries) entries) :=
        Tensor.slice?_matrix bound
      refine .some ⟨by rw [whole]; rfl, ?_⟩
      simp only [List.tail_cons, volume, Nat.mul_one]
      rw [Tensor.slice?_matrix inside, copied, whole, Nat.add_zero]

theorem append_gathered (following : ∀ row ∈ others, row < rows) :
    (buffer.gathered chosen).append (buffer.gathered others) = .ok (buffer.gathered (chosen ++ others)) := by
  have held : buffer.data.cells = .i64 cells := by rw [formed.data]
  have tokens := Tensor.append_gather formed.fits within formed.layout.tokens.reaches following
    [buffer.tokensAt.length] (Nat.mul_one _)
  have valid := Tensor.append_gather formed.fits within formed.layout.valid.reaches following
    [buffer.validAt.length] (Nat.mul_one _)
  have lengths := Tensor.append_gather formed.fits within formed.length_reaches following [] rfl
  simp only [SlotView.append, gathered, formed.wide, held, tokens, valid, lengths, bind, Except.bind]
  cases scored : buffer.logProb with
  | none => rfl
  | some logProb =>
    obtain ⟨entries, kept, rfl, fits⟩ := formed.scored logProb scored
    have joined := Tensor.append_gather fits within (Nat.le_of_eq (Nat.zero_add entries)) following
      [entries] (Nat.mul_one _)
    simp only [Option.map_some, List.tail_cons, volume, Nat.mul_one, joined]
    rfl

end Formed

/-- The views of an accepted buffer follow one addressing formula. A list of slots fails at its first slot
that the buffer does not cover. Otherwise row `row` of the slot in place `place` stands in the view at
`place * samplesPerSlot + row`, and shows row `slot * samplesPerSlot + row` of the buffer. A single slot
fails in the same way and shows the same, and lists end to end make views end to end. -/
theorem views_follow_addresses {rows : Nat} {buffer : ResultBuffer} (accepted : buffer.Accepted rows)
    (few : rows < 0x100000000) (slots : List Nat) (room : slots.length * buffer.samplesPerSlot < Size.limit)
    (addressable : Size.addressable (slots.length * buffer.samplesPerSlot) 4 = true) :
    (∀ slot, slots.find? (rows / buffer.samplesPerSlot ≤ ·) = some slot →
      buffer.slotsView slots = .error (.slotOutOfRange slot (rows / buffer.samplesPerSlot))) ∧
    ((∀ slot ∈ slots, slot < rows / buffer.samplesPerSlot) →
      (∃ view, buffer.slotsView slots = .ok view ∧ view.Sized buffer (slots.length * buffer.samplesPerSlot) ∧
        ∀ place slot row, slots[place]? = some slot → row < buffer.samplesPerSlot →
          view.ShowsRow buffer (place * buffer.samplesPerSlot + row) (slot * buffer.samplesPerSlot + row)) ∧
      ∀ front back, slots = front ++ back →
        ∃ upper lower view, buffer.slotsView front = .ok upper ∧ buffer.slotsView back = .ok lower ∧
          buffer.slotsView slots = .ok view ∧ upper.append lower = .ok view) ∧
    (∀ slot, buffer.slotView slot = if rows / buffer.samplesPerSlot ≤ slot then
        .error (.slotOutOfRange slot (rows / buffer.samplesPerSlot))
      else buffer.slotsView [slot]) ∧
    ∃ view, buffer.slotsView [] = .ok view ∧ view.Sized buffer 0 := by
  obtain ⟨width, cells, formed⟩ := accepted.formed
  have viewed {part : List Nat} (short : part.length ≤ slots.length)
      (inside : ∀ slot ∈ part, slot < rows / buffer.samplesPerSlot) :
      buffer.slotsView part = .ok (buffer.gathered (addresses buffer.samplesPerSlot part)) := by
    have count := Nat.mul_le_mul_right buffer.samplesPerSlot short
    have counted : part.length * buffer.samplesPerSlot < Size.limit := by omega
    have placed : Size.addressable (part.length * buffer.samplesPerSlot) 4 = true := by
      simp only [Size.addressable, decide_eq_true_eq] at addressable ⊢
      omega
    have none : part.find? (rows / buffer.samplesPerSlot ≤ ·) = none := by simpa using inside
    rw [formed.slotsView_eq few counted placed, none]
  have sized (part : List Nat) (inside : ∀ slot ∈ part, slot < rows / buffer.samplesPerSlot) :
      (buffer.gathered (addresses buffer.samplesPerSlot part)).Sized buffer
        (part.length * buffer.samplesPerSlot) := by
    have size := formed.gathered_sized fun row member => lt_of_mem_addresses inside member
    rwa [length_addresses] at size
  refine ⟨?_, ?_, ?_, ?_⟩
  · intro slot outside
    rw [formed.slotsView_eq few room addressable, outside]
  · intro inside
    constructor
    · refine ⟨_, viewed (Nat.le_refl _) inside, sized slots inside, ?_⟩
      intro place slot row found own
      exact formed.gathered_showsRow (fun row member => lt_of_mem_addresses inside member)
        (getElem?_addresses found own)
    · rintro front back rfl
      have upper : ∀ slot ∈ front, slot < rows / buffer.samplesPerSlot :=
        fun slot member => inside slot (List.mem_append_left back member)
      have lower : ∀ slot ∈ back, slot < rows / buffer.samplesPerSlot :=
        fun slot member => inside slot (List.mem_append_right front member)
      refine ⟨_, _, _, viewed (by simp) upper, viewed (by simp) lower, viewed (Nat.le_refl _) inside, ?_⟩
      rw [addresses_append]
      exact formed.append_gathered (fun row member => lt_of_mem_addresses upper member)
        fun row member => lt_of_mem_addresses lower member
  · intro slot
    rw [formed.slotView_eq]
    split
    next => rfl
    next covered =>
      -- A slot that is covered is no larger than the buffer, so its row numbers always find room.
      have small := Nat.div_le_self rows buffer.samplesPerSlot
      have positive := formed.layout.positive
      have group : buffer.samplesPerSlot ≤ rows :=
        Nat.le_of_dvd (by omega) formed.layout.whole
      have alone : [slot].find? (rows / buffer.samplesPerSlot ≤ ·) = none := by simpa using covered
      rw [formed.slotsView_eq few, alone]
      · simp only [List.length_singleton, Nat.one_mul, Size.limit]
        omega
      · simp only [List.length_singleton, Nat.one_mul, Size.addressable, decide_eq_true_eq]
        omega
  · refine ⟨_, viewed (Nat.zero_le _) (by simp), ?_⟩
    simpa using sized [] (by simp)

def rearranged : ResultBuffer :=
  ⟨⟨[2, 6], .i64 [9, 0, 5, 1, 1, 7, 8, 0, 5, 0, 1, 6]⟩, ⟨5, 6⟩, ⟨3, 5⟩, ⟨0, 2⟩, 1, some ⟨[2, 1], .u8 [3, 4]⟩⟩

theorem views_follow_addresses_rearranged :
    rearranged.Accepted 2 ∧ ∃ view, rearranged.slotsView [1, 0, 1] = .ok view ∧
      view.ShowsRow rearranged 2 1 := by
  have fits : Tensor.Fits ⟨[2, 6], rearranged.data.cells⟩ := rfl
  have laid : ofData rearranged.data ⟨5, 6⟩ ⟨3, 5⟩ ⟨0, 2⟩ 1 = .ok { rearranged with logProb := none } := rfl
  have scored : Tensor.Fits ⟨[2, 1], .u8 [3, 4]⟩ := rfl
  have accepted : rearranged.Accepted 2 := .withLogProb (.ofData fits laid) scored rfl
  obtain ⟨-, viewed, -⟩ := views_follow_addresses accepted (by decide) [1, 0, 1] (by decide) (by decide)
  obtain ⟨⟨view, ok, -, shows⟩, -⟩ := viewed (by decide)
  exact ⟨accepted, view, ok, shows 2 1 0 rfl (by decide)⟩

end ResultBuffer

end SlotServe
