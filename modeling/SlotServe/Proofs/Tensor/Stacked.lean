import SlotServe.Proofs.Tensor.Rows
import SlotServe.Size

/-! Tensors stacked along their first axis, whatever lies behind it. A stack holds each part as a run of
entries: what can be cut out of the part can be cut out of the stack, so many entries further on. -/
namespace SlotServe

namespace Cells

variable {front back whole : Cells} {start count : Nat}

theorem join?_congr {first second : {α : Type} → List α → List α → List α}
    (agree : ∀ {α : Type} (upper lower : List α), upper.length = front.length → lower.length = back.length →
      first upper lower = second upper lower) : front.join? first back = front.join? second back := by
  cases front <;> cases back <;> first | rfl | simp only [join?, agree _ _ rfl rfl]

theorem join?_of_type (merge : {α : Type} → List α → List α → List α) (same : front.type = back.type) :
    ∃ whole, front.join? merge back = some whole ∧ whole.type = front.type := by
  cases front <;> cases back <;> first | exact ⟨_, rfl, rfl⟩ | cases same

section

variable (joined : front.join? (· ++ ·) back = some whole)

include joined

theorem length_join : whole.length = front.length + back.length := by
  cases front <;> cases back <;> cases joined <;> exact List.length_append

theorem stretch_join_front (inside : start + count ≤ front.length) :
    whole.stretch start count = front.stretch start count := by
  have cut {α : Type} (upper lower : List α) (inside : start + count ≤ upper.length) :
      ((upper ++ lower).drop start).take count = (upper.drop start).take count := by
    rw [List.drop_append_of_le_length (by omega), List.take_append_of_le_length]
    rw [List.length_drop]
    omega
  cases front <;> cases back <;> cases joined <;> simp only [stretch, rearrange, cut _ _ inside]

theorem stretch_join_back : whole.stretch (front.length + start) count = back.stretch start count := by
  have cut {α : Type} (upper lower : List α) :
      ((upper ++ lower).drop (upper.length + start)).take count = (lower.drop start).take count := by
    rw [← List.drop_drop, List.drop_left]
  cases front <;> cases back <;> cases joined <;> simp only [stretch, rearrange, length, cut]

end

end Cells

namespace Tensor

def height (tensor : Tensor) : Nat := tensor.shape.head?.getD 0

def Holds (whole : Tensor) (offset : Nat) (part : Tensor) : Prop :=
  ∀ start count cut, part.narrow 0 start count = .ok cut → whole.narrow 0 (offset + start) count = .ok cut

theorem Holds.trans {whole middle part : Tensor} {outer inner : Nat} (holds : whole.Holds outer middle)
    (within : middle.Holds inner part) : whole.Holds (outer + inner) part := by
  intro start count cut ok
  rw [Nat.add_assoc]
  exact holds _ _ _ (within _ _ _ ok)

theorem Holds.refl (tensor : Tensor) : tensor.Holds 0 tensor := by
  intro start count cut ok
  rwa [Nat.zero_add]

theorem narrow_first {rows start count : Nat} {rest : List Nat} {cells : Cells}
    (fits : Fits ⟨rows :: rest, cells⟩) :
    narrow ⟨rows :: rest, cells⟩ 0 start count =
      if rows < start + count then .error .outOfRange
      else .ok ⟨count :: rest, cells.stretch (start * volume rest) (count * volume rest)⟩ := by
  have size : cells.length = rows * volume rest := fits
  simp only [narrow, List.getElem?_cons_zero]
  split
  next => rfl
  next =>
    refine congrArg (fun cells => Except.ok (Tensor.mk (count :: rest) cells)) ?_
    apply Cells.rearrange_congr
    intro α list length
    have whole : list.take (rows * volume rest) = list := List.take_of_length_le (by omega)
    simp only [List.take_zero, volume, List.drop_succ_cons, List.drop_zero, pieces,
      List.flatMap_cons, List.flatMap_nil, List.append_nil, whole]

theorem narrow_ok {tensor : Tensor} {rows start count : Nat} {rest : List Nat} (shape : tensor.shape = rows :: rest)
    (inside : start + count ≤ rows) : ∃ cut, tensor.narrow 0 start count = .ok cut ∧ cut.shape = count :: rest := by
  obtain ⟨_, cells⟩ := tensor
  obtain rfl : _ = rows :: rest := shape
  exact ⟨_, if_neg (Nat.not_lt.mpr inside), rfl⟩

/-- Tensors that were put end to end differ in the first axis only. -/
theorem append_shapes {left right whole : Tensor} (ok : left.append right 0 = .ok whole) :
    ∃ rows more rest, left.shape = rows :: rest ∧ right.shape = more :: rest ∧
      whole.shape = (rows + more) :: rest := by
  obtain ⟨shape, cells⟩ := left
  obtain ⟨other, others⟩ := right
  match shape, other with
  | [], _ => cases ok
  | _ :: _, [] => cases ok
  | rows :: rest, more :: following =>
    simp only [append, List.getElem?_cons_zero, List.set_cons_zero, List.cons.injEq, true_and] at ok
    split at ok
    next same =>
      obtain ⟨-, rfl⟩ := same
      split at ok
      next => cases ok; exact ⟨rows, more, rest, rfl, rfl, rfl⟩
      next => cases ok
    next => cases ok

theorem append_eq (rows more : Nat) (rest : List Nat) (upper lower : Cells) :
    append ⟨rows :: rest, upper⟩ ⟨more :: rest, lower⟩ 0 =
      (upper.join? (fun front back => front.take (rows * volume rest) ++ back.take (more * volume rest))
        lower).elim (.error .wrongType) fun cells => .ok ⟨(rows + more) :: rest, cells⟩ := by
  simp only [append, List.getElem?_cons_zero, List.length_cons, List.set_cons_zero, and_self, if_true,
    List.take_zero, volume, List.drop_succ_cons, List.drop_zero, pieces, List.zipWith_cons_cons,
    List.zipWith_nil_left, List.flatten_cons, List.flatten_nil, List.append_nil]
  cases upper.join? _ lower <;> rfl

/-- Two tensors of one type that differ in the first axis only go end to end. -/
theorem append_ok {left right : Tensor} {rows more : Nat} {rest : List Nat} (upper : left.shape = rows :: rest)
    (lower : right.shape = more :: rest) (same : left.type = right.type) :
    ∃ whole, left.append right 0 = .ok whole ∧ whole.type = left.type := by
  obtain ⟨shape, cells⟩ := left
  obtain ⟨other, others⟩ := right
  obtain rfl : shape = rows :: rest := upper
  obtain rfl : other = more :: rest := lower
  obtain ⟨whole, joined, type⟩ := Cells.join?_of_type
    (fun front back => front.take (rows * volume rest) ++ back.take (more * volume rest)) same
  rw [append_eq, joined]
  exact ⟨_, rfl, type⟩

section

variable {left right whole : Tensor} (fits : left.Fits) (follows : right.Fits)
  (ok : left.append right 0 = .ok whole)

include fits follows ok

theorem append_joins :
    ∃ rows more rest upper lower cells, left = ⟨rows :: rest, upper⟩ ∧ right = ⟨more :: rest, lower⟩ ∧
      whole = ⟨(rows + more) :: rest, cells⟩ ∧ upper.join? (· ++ ·) lower = some cells := by
  obtain ⟨rows, more, rest, above, below, -⟩ := append_shapes ok
  obtain ⟨shape, upper⟩ := left
  obtain ⟨other, lower⟩ := right
  obtain rfl : shape = rows :: rest := above
  obtain rfl : other = more :: rest := below
  have above : upper.length = rows * volume rest := fits
  have below : lower.length = more * volume rest := follows
  have merged : upper.join? (fun front back => front.take (rows * volume rest) ++ back.take (more * volume rest))
      lower = upper.join? (· ++ ·) lower := by
    apply Cells.join?_congr
    intro α front back length size
    rw [List.take_of_length_le (by omega), List.take_of_length_le (by omega)]
  rw [append_eq, merged] at ok
  cases joined : upper.join? (· ++ ·) lower with
  | none =>
    rw [joined] at ok
    cases ok
  | some cells =>
    rw [joined] at ok
    cases ok
    exact ⟨rows, more, rest, upper, lower, cells, rfl, rfl, rfl, joined⟩

theorem append_fits : whole.Fits := by
  obtain ⟨rows, more, rest, upper, lower, cells, rfl, rfl, rfl, joined⟩ := append_joins fits follows ok
  have above : upper.length = rows * volume rest := fits
  have below : lower.length = more * volume rest := follows
  have size := Cells.length_join joined
  simp only [Fits, volume]
  rw [size, above, below, Nat.add_mul]

theorem append_height : whole.height = left.height + right.height := by
  obtain ⟨rows, more, rest, upper, lower, cells, rfl, rfl, rfl, -⟩ := append_joins fits follows ok
  rfl

theorem append_holds_upper : whole.Holds 0 left := by
  have all := append_fits fits follows ok
  obtain ⟨rows, more, rest, upper, lower, cells, rfl, rfl, rfl, joined⟩ := append_joins fits follows ok
  have above : upper.length = rows * volume rest := fits
  intro start count cut own
  rw [narrow_first fits] at own
  split at own
  next => cases own
  next inside =>
    cases own
    have reach : (start + count) * volume rest ≤ rows * volume rest := Nat.mul_le_mul_right _ (by omega)
    rw [Nat.add_mul] at reach
    rw [narrow_first all, if_neg (by omega), Nat.zero_add, Cells.stretch_join_front joined (by omega)]

theorem append_holds_lower : whole.Holds left.height right := by
  have all := append_fits fits follows ok
  obtain ⟨rows, more, rest, upper, lower, cells, rfl, rfl, rfl, joined⟩ := append_joins fits follows ok
  have above : upper.length = rows * volume rest := fits
  intro start count cut own
  rw [narrow_first follows] at own
  split at own
  next => cases own
  next inside =>
    cases own
    rw [narrow_first all, if_neg (by simp only [height, List.head?_cons, Option.getD_some]; omega)]
    simp only [height, List.head?_cons, Option.getD_some, Nat.add_mul]
    rw [← above, Cells.stretch_join_back joined]

end

structure Stacked (parts : List Tensor) (whole : Tensor) : Prop where
  fits : whole.Fits
  height : whole.height = Size.total (parts.map height)
  holds : ∀ place part, parts[place]? = some part → whole.Holds (Size.total ((parts.take place).map Tensor.height)) part

theorem Stacked.single {part : Tensor} (fits : part.Fits) : Stacked [part] part := by
  refine ⟨fits, (Nat.add_zero _).symm, fun place other found => ?_⟩
  cases place with
  | zero =>
    cases found
    exact Holds.refl part
  | succ place => cases found

theorem Stacked.append {parts : List Tensor} {joined next whole : Tensor} (stacked : Stacked parts joined)
    (fits : next.Fits) (ok : joined.append next 0 = .ok whole) : Stacked (parts ++ [next]) whole := by
  refine ⟨append_fits stacked.fits fits ok, ?_, fun place part found => ?_⟩
  · rw [append_height stacked.fits fits ok, stacked.height, List.map_append, Size.total_append]
    rfl
  · rcases Nat.lt_trichotomy place parts.length with earlier | rfl | later
    · rw [List.getElem?_append_left earlier] at found
      rw [List.take_append_of_le_length (by omega)]
      have within := (append_holds_upper stacked.fits fits ok).trans (stacked.holds place part found)
      rwa [Nat.zero_add] at within
    · obtain rfl : next = part := by simpa using found
      rw [List.take_left, ← stacked.height]
      exact append_holds_lower stacked.fits fits ok
    · rw [List.getElem?_eq_none (by simp; omega)] at found
      cases found

theorem fold_stacked {parts rest : List Tensor} {joined whole : Tensor} (stacked : Stacked parts joined)
    (fits : ∀ part ∈ rest, part.Fits)
    (ok : rest.foldlM (fun joined next => joined.append next 0) joined = .ok whole) :
    Stacked (parts ++ rest) whole := by
  induction rest generalizing parts joined with
  | nil =>
    cases ok
    rwa [List.append_nil]
  | cons next rest ih =>
    rw [List.foldlM_cons] at ok
    cases step : joined.append next 0 with
    | error fault =>
      rw [step] at ok
      cases ok
    | ok longer =>
      rw [step] at ok
      have extended := stacked.append (fits next (by simp)) step
      have run := ih extended (fun part member => fits part (List.mem_cons_of_mem next member)) ok
      rwa [List.append_assoc] at run

/-- A whole that was put together from fitting parts is a stack of them. -/
theorem concat_stacked {parts : List Tensor} {whole : Tensor} (fits : ∀ part ∈ parts, part.Fits)
    (ok : concat 0 parts = .ok whole) : Stacked parts whole := by
  cases parts with
  | nil => cases ok
  | cons first rest =>
    exact fold_stacked (.single (fits first (by simp)))
      (fun part member => fits part (List.mem_cons_of_mem first member)) ok

structure Matrix (type : ElementType) (width : Nat) (tensor : Tensor) : Prop where
  type : tensor.type = type
  shape : ∃ rows, tensor.shape = [rows, width]

theorem Matrix.append {type : ElementType} {width : Nat} {left right : Tensor} (upper : left.Matrix type width)
    (lower : right.Matrix type width) : ∃ whole, left.append right 0 = .ok whole ∧ whole.Matrix type width := by
  obtain ⟨rows, above⟩ := upper.shape
  obtain ⟨more, below⟩ := lower.shape
  obtain ⟨whole, ok, same⟩ := append_ok above below (upper.type.trans lower.type.symm)
  obtain ⟨_, _, rest, shape, -, joined⟩ := append_shapes ok
  rw [above] at shape
  cases shape
  exact ⟨whole, ok, same.trans upper.type, _, joined⟩

/-- Matrices of one type and one width stack. -/
theorem concat_matrices {type : ElementType} {width : Nat} {parts : List Tensor} (some : parts ≠ [])
    (alike : ∀ part ∈ parts, part.Matrix type width) :
    ∃ whole, concat 0 parts = .ok whole ∧ whole.Matrix type width := by
  cases parts with
  | nil => exact absurd rfl some
  | cons first rest =>
    rw [List.forall_mem_cons] at alike
    obtain ⟨upper, lower⟩ := alike
    simp only [concat]
    clear some
    induction rest generalizing first with
    | nil => exact ⟨first, rfl, upper⟩
    | cons next rest ih =>
      rw [List.forall_mem_cons] at lower
      obtain ⟨joined, ok, matrix⟩ := upper.append lower.1
      rw [List.foldlM_cons, ok]
      exact ih joined matrix lower.2

end Tensor

end SlotServe
