import SlotServe.Proofs.Tensor.Matrix

/-! Rows gathered from a matrix of any element type. Picking rows by number, cutting out a run of rows and
cutting out columns all gather stretches of cells, and a gathering is read row by row. -/
namespace SlotServe

namespace Cells

theorem rearrange_congr {cells : Cells} {first second : {α : Type} → List α → List α}
    (agree : ∀ {α : Type} (list : List α), list.length = cells.length → first list = second list) :
    cells.rearrange first = cells.rearrange second := by
  cases cells with
  | u8 list => exact congrArg Cells.u8 (agree list rfl)
  | u32 list => exact congrArg Cells.u32 (agree list rfl)
  | i64 list => exact congrArg Cells.i64 (agree list rfl)
  | bf16 list => exact congrArg Cells.bf16 (agree list rfl)
  | f16 list => exact congrArg Cells.f16 (agree list rfl)
  | f32 list => exact congrArg Cells.f32 (agree list rfl)
  | f64 list => exact congrArg Cells.f64 (agree list rfl)

theorem rearrange_rearrange (cells : Cells) (first second : {α : Type} → List α → List α) :
    (cells.rearrange first).rearrange second = cells.rearrange fun list => second (first list) := by
  cases cells <;> rfl

theorem length_rearrange {cells : Cells} {move : {α : Type} → List α → List α} {size : Nat}
    (sized : ∀ {α : Type} (list : List α), list.length = cells.length → (move list).length = size) :
    (cells.rearrange move).length = size := by
  cases cells <;> exact sized _ rfl

theorem join?_rearrange (cells : Cells) (merge : {α : Type} → List α → List α → List α)
    (first second : {α : Type} → List α → List α) :
    (cells.rearrange first).join? merge (cells.rearrange second) =
      some (cells.rearrange fun list => merge (first list) (second list)) := by
  cases cells <;> rfl

def stretch (start count : Nat) (cells : Cells) : Cells :=
  cells.rearrange fun list => (list.drop start).take count

theorem stretch_stretch {start count inner length : Nat} (inside : inner + length ≤ count) (cells : Cells) :
    (cells.stretch start count).stretch inner length = cells.stretch (start + inner) length := by
  unfold stretch
  rw [rearrange_rearrange]
  apply rearrange_congr
  intro α list _
  rw [List.drop_take, List.drop_drop, List.take_take, Nat.min_eq_left (by omega)]

def gather (width : Nat) (chosen : List Nat) (start count : Nat) (cells : Cells) : Cells :=
  cells.rearrange fun list => chosen.flatMap fun row => (list.drop (row * width + start)).take count

end Cells

namespace Tensor

def slice? (tensor : Tensor) (place : Nat) : Option Cells :=
  match tensor.shape with
  | [] => none
  | size :: rest =>
    if place < size then some (tensor.cells.stretch (place * volume rest) (volume rest)) else none

variable {rows width start count : Nat} {chosen : List Nat} {cells : Cells}

theorem slice?_matrix {place : Nat} (inside : place < rows) :
    slice? ⟨[rows, width], cells⟩ place = some (cells.stretch (place * width) width) := by
  simp [slice?, volume, inside]

theorem slice?_vector {place : Nat} (inside : place < rows) :
    slice? ⟨[rows], cells⟩ place = some (cells.stretch place 1) := by
  simp [slice?, volume, inside]

theorem selectRows_eq (within : ∀ row ∈ chosen, row < rows) :
    selectRows ⟨[rows, width], cells⟩ chosen =
      .ok ⟨[chosen.length, width], cells.gather width chosen 0 width⟩ := by
  have passing : chosen.all (· < rows) = true := by simpa using within
  simp [selectRows, passing, volume, Cells.gather]

section

variable (fits : Fits ⟨[rows, width], cells⟩)

include fits

theorem length_cells : cells.length = rows * width := by
  have := fits
  simpa [Fits, volume] using this

theorem narrow_rows_eq {first : Nat} (inside : first + count ≤ rows) :
    narrow ⟨[rows, width], cells⟩ 0 first count =
      .ok ⟨[count, width], cells.gather width (List.range' first count) 0 width⟩ := by
  have size := length_cells fits
  simp only [narrow, List.getElem?_cons_zero, if_neg (Nat.not_lt.mpr inside)]
  refine congrArg (fun cells => Except.ok (Tensor.mk [count, width] cells)) ?_
  apply Cells.rearrange_congr
  intro α list length
  have whole : list.take (rows * width) = list := List.take_of_length_le (by omega)
  simp only [volume, pieces, List.take_zero, List.drop_one, List.tail_cons, Nat.mul_one,
    List.flatMap_cons, List.flatMap_nil, List.append_nil, Nat.zero_add, Nat.add_zero, whole]
  clear whole length size inside fits
  induction count generalizing first with
  | zero => simp
  | succ count ih =>
    rw [Nat.succ_mul, Nat.add_comm, List.take_add, List.range'_succ, List.flatMap_cons, ← ih,
      List.drop_drop, Nat.succ_mul]

variable (within : ∀ row ∈ chosen, row < rows) (inside : start + count ≤ width)

include within inside

theorem gathered_grid {α : Type} {list : List α} (length : list.length = cells.length) :
    Grid chosen.length count (chosen.map fun row => (list.drop (row * width + start)).take count) := by
  refine ⟨List.length_map _, ofWidth_map fun row member => ?_⟩
  have size := length_cells fits
  have room : (row + 1) * width ≤ rows * width := Nat.mul_le_mul_right width (within row member)
  rw [Nat.succ_mul] at room
  rw [List.length_take, List.length_drop, length, size]
  omega

theorem length_gather : (cells.gather width chosen start count).length = chosen.length * count := by
  apply Cells.length_rearrange
  intro α list length
  have grid := gathered_grid fits within inside length
  rw [List.flatMap_def, grid.uniform.length_flatten, grid.height]

theorem stretch_gather {place row : Nat} (found : chosen[place]? = some row) :
    (cells.gather width chosen start count).stretch (place * count) count =
      cells.stretch (row * width + start) count := by
  unfold Cells.gather Cells.stretch
  rw [Cells.rearrange_rearrange]
  apply Cells.rearrange_congr
  intro α list length
  rw [List.flatMap_def]
  apply (gathered_grid fits within inside length).flatten_row
  rw [List.getElem?_map, found]
  rfl

theorem narrow_columns_eq :
    narrow ⟨[chosen.length, width], cells.gather width chosen 0 width⟩ 1 start count =
      .ok ⟨[chosen.length, count], cells.gather width chosen start count⟩ := by
  simp only [narrow, List.getElem?_cons_succ, List.getElem?_cons_zero, if_neg (Nat.not_lt.mpr inside),
    Cells.gather, Cells.rearrange_rearrange]
  refine congrArg (fun cells => Except.ok (Tensor.mk [chosen.length, count] cells)) ?_
  apply Cells.rearrange_congr
  intro α list length
  have full : 0 + width ≤ width := by omega
  have grid := gathered_grid fits within full length
  have cut := grid.uniform.pieces_flatten
  rw [grid.height] at cut
  simp only [volume, List.take_succ_cons, List.take_zero, List.drop_succ_cons, List.drop_nil, Nat.mul_one,
    List.flatMap_def (l := chosen), cut]
  simp only [List.flatMap_map, List.flatMap_def (l := chosen)]
  refine congrArg List.flatten (List.map_congr_left fun row _ => ?_)
  rw [List.drop_take, List.drop_drop, List.take_take, Nat.add_zero, Nat.min_eq_left (by omega)]

theorem append_gather {others : List Nat} (following : ∀ row ∈ others, row < rows) (rest : List Nat)
    (each : volume rest = count) :
    append ⟨chosen.length :: rest, cells.gather width chosen start count⟩
        ⟨others.length :: rest, cells.gather width others start count⟩ 0 =
      .ok ⟨(chosen ++ others).length :: rest, cells.gather width (chosen ++ others) start count⟩ := by
  simp only [append, List.getElem?_cons_zero, List.length_cons, List.set_cons_zero, and_self,
    if_true, Cells.gather, Cells.join?_rearrange, List.length_append]
  refine congrArg (fun cells => Except.ok (Tensor.mk ((chosen.length + others.length) :: rest) cells)) ?_
  apply Cells.rearrange_congr
  intro α list length
  have front := gathered_grid fits within inside length
  have back := gathered_grid fits following inside length
  have frontSize := front.uniform.length_flatten
  have backSize := back.uniform.length_flatten
  rw [front.height] at frontSize
  rw [back.height] at backSize
  simp only [volume, List.take_zero, List.drop_succ_cons, List.drop_zero, each, pieces,
    List.zipWith_cons_cons, List.zipWith_nil_left, List.flatten_cons, List.flatten_nil, List.append_nil,
    List.flatMap_def, List.map_append, List.flatten_append]
  rw [List.take_of_length_le (by omega), List.take_of_length_le (by omega)]

end

end Tensor

theorem ofWidth_pieces {α : Type} {count width : Nat} {cells : List α} (size : cells.length = count * width) :
    OfWidth width (pieces count width cells) := by
  induction count generalizing cells with
  | zero => simp [pieces, OfWidth]
  | succ count ih =>
    rw [Nat.succ_mul] at size
    intro row member
    rcases List.mem_cons.mp member with rfl | later
    · rw [List.length_take]
      omega
    · refine ih ?_ row later
      rw [List.length_drop]
      omega

theorem OfWidth.map_take {α : Type} {width : Nat} {rows : List (List α)} (uniform : OfWidth width rows) :
    rows.map (fun row => row.take width) = rows := by
  conv_rhs => rw [← List.map_id rows]
  apply List.map_congr_left
  intro row member
  exact List.take_of_length_le (Nat.le_of_eq (uniform row member))

/-- The same columns of all rows, gathered from the flattened rows, are cut out of each row. -/
theorem OfWidth.gather_range {α : Type} {width start count : Nat} {rows : List (List α)}
    (uniform : OfWidth width rows) (inside : start + count ≤ width) :
    ((List.range rows.length).flatMap fun row => (rows.flatten.drop (row * width + start)).take count) =
      (rows.map fun row => (row.drop start).take count).flatten := by
  have grid : Grid rows.length width rows := ⟨rfl, uniform⟩
  rw [List.flatMap_def]
  refine congrArg List.flatten ?_
  apply List.ext_getElem
  · simp
  · intro place left right
    have bound : place < rows.length := by simpa using left
    have row := grid.flatten_row (List.getElem?_eq_getElem bound)
    rw [List.getElem_map, List.getElem_range, List.getElem_map, ← row, List.drop_take, List.drop_drop,
      List.take_take, Nat.min_eq_left (by omega)]

theorem OfWidth.gather_all {α : Type} {width : Nat} {rows : List (List α)} (uniform : OfWidth width rows) :
    ((List.range rows.length).flatMap fun row => (rows.flatten.drop (row * width + 0)).take width) =
      rows.flatten := by
  rw [uniform.gather_range (Nat.le_of_eq (Nat.zero_add width))]
  simp only [List.drop_zero, uniform.map_take]

end SlotServe
