import SlotServe.Proofs.Lists
import SlotServe.Tensor.Convert

/-! Matrices as lists of rows of one width. Cutting rows or columns out of the cells of a matrix is
cutting them out of its list of rows, and putting matrices side by side is joining them row by row. -/
namespace SlotServe

variable {α : Type}

namespace OfWidth

variable {width : Nat} {rows : List (List α)}

theorem pieces_flatten (uniform : OfWidth width rows) : pieces rows.length width rows.flatten = rows := by
  induction rows with
  | nil => rfl
  | cons first rest ih =>
    have size := uniform first (by simp)
    rw [List.length_cons, pieces, List.flatten_cons, ← size, List.take_left, List.drop_left, size,
      ih uniform.tail]

end OfWidth

namespace Tensor

variable {width start count : Nat} {rows : List (List Int64)} {part : Tensor}

theorem narrow_rows (uniform : OfWidth width rows)
    (ok : narrow ⟨[rows.length, width], .i64 rows.flatten⟩ 0 start count = .ok part) :
    start + count ≤ rows.length ∧
      part = ⟨[count, width], .i64 ((rows.drop start).take count).flatten⟩ := by
  simp only [narrow, List.getElem?_cons_zero] at ok
  split at ok
  next => cases ok
  next inside =>
    have whole : rows.flatten.take (rows.length * width) = rows.flatten := by
      rw [uniform.take_flatten, List.take_length]
    refine ⟨by omega, (Except.ok.inj ok).symm.trans ?_⟩
    simp only [Cells.rearrange, volume, pieces, List.take_zero, List.drop_one, List.tail_cons, Nat.mul_one,
      List.flatMap_cons, List.flatMap_nil, List.append_nil, List.set_cons_zero, Nat.zero_add, whole]
    rw [uniform.drop_flatten, (uniform.sublist (List.drop_sublist _ _)).take_flatten]

theorem narrow_columns (uniform : OfWidth width rows)
    (ok : narrow ⟨[rows.length, width], .i64 rows.flatten⟩ 1 start count = .ok part) :
    part = ⟨[rows.length, count], .i64 (rows.map fun row => (row.drop start).take count).flatten⟩ := by
  simp only [narrow, List.getElem?_cons_succ, List.getElem?_cons_zero] at ok
  split at ok
  next => cases ok
  next inside =>
    refine (Except.ok.inj ok).symm.trans ?_
    simp only [Cells.rearrange, volume, List.take_succ_cons, List.take_zero, List.drop_succ_cons,
      Nat.mul_one, List.set_cons_succ, List.set_cons_zero, List.drop_nil,
      uniform.pieces_flatten, List.flatMap_def]

def beside (height leftWidth rightWidth : Nat) (left right : List Int64) : List Int64 :=
  (List.zipWith (· ++ ·) (pieces height leftWidth left) (pieces height rightWidth right)).flatten

theorem append_columns (height leftWidth rightWidth : Nat) (left right : List Int64) :
    append ⟨[height, leftWidth], .i64 left⟩ ⟨[height, rightWidth], .i64 right⟩ 1 =
      .ok ⟨[height, leftWidth + rightWidth], .i64 (beside height leftWidth rightWidth left right)⟩ := by
  simp [append, Cells.join?, volume, beside]

theorem beside_rows {height leftWidth rightWidth : Nat} {left right : List (List Int64)}
    (front : Grid height leftWidth left) (back : Grid height rightWidth right) :
    beside height leftWidth rightWidth left.flatten right.flatten = (List.zipWith (· ++ ·) left right).flatten := by
  have frontPieces := front.uniform.pieces_flatten
  have backPieces := back.uniform.pieces_flatten
  rw [front.height] at frontPieces
  rw [back.height] at backPieces
  rw [beside, frontPieces, backPieces]

end Tensor

end SlotServe
