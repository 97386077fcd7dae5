import SlotServe.Fault
/-! Dense tensors in row-major order: cells of one of seven element types, and the operations that
move whole cells about. Cells are never looked into here, so each operation is one rearrangement
of a list, the same for every element type. A real number stands in its cell bit by bit, so that a cell
that is moved is the very same cell. -/
namespace SlotServe

inductive ElementType
  | u8 | u32 | i64 | bf16 | f16 | f32 | f64
  deriving DecidableEq

def ElementType.bytes : ElementType → Nat
  | .u8 => 1
  | .bf16 | .f16 => 2
  | .u32 | .f32 => 4
  | .i64 | .f64 => 8

/-- Whole numbers, and the bits of real ones. -/
inductive Cells
  | u8 (cells : List UInt8)
  | u32 (cells : List UInt32)
  | i64 (cells : List Int64)
  | bf16 (bits : List UInt16)
  | f16 (bits : List UInt16)
  | f32 (bits : List UInt32)
  | f64 (bits : List UInt64)
  deriving DecidableEq

namespace Cells

def type : Cells → ElementType
  | .u8 _ => .u8
  | .u32 _ => .u32
  | .i64 _ => .i64
  | .bf16 _ => .bf16
  | .f16 _ => .f16
  | .f32 _ => .f32
  | .f64 _ => .f64

def length : Cells → Nat
  | .u8 cells => cells.length
  | .u32 cells => cells.length
  | .i64 cells => cells.length
  | .bf16 bits => bits.length
  | .f16 bits => bits.length
  | .f32 bits => bits.length
  | .f64 bits => bits.length

def ofReals (numbers : List Float32) : Cells := .f32 (numbers.map Float32.toBits)

def rearrange (move : {α : Type} → List α → List α) : Cells → Cells
  | .u8 cells => .u8 (move cells)
  | .u32 cells => .u32 (move cells)
  | .i64 cells => .i64 (move cells)
  | .bf16 bits => .bf16 (move bits)
  | .f16 bits => .f16 (move bits)
  | .f32 bits => .f32 (move bits)
  | .f64 bits => .f64 (move bits)

def join? (merge : {α : Type} → List α → List α → List α) : Cells → Cells → Option Cells
  | .u8 left, .u8 right => some (.u8 (merge left right))
  | .u32 left, .u32 right => some (.u32 (merge left right))
  | .i64 left, .i64 right => some (.i64 (merge left right))
  | .bf16 left, .bf16 right => some (.bf16 (merge left right))
  | .f16 left, .f16 right => some (.f16 (merge left right))
  | .f32 left, .f32 right => some (.f32 (merge left right))
  | .f64 left, .f64 right => some (.f64 (merge left right))
  | _, _ => none

end Cells

def volume : List Nat → Nat
  | [] => 1
  | size :: rest => size * volume rest

def pieces {α : Type} : Nat → Nat → List α → List (List α)
  | 0, _, _ => []
  | count + 1, width, cells => cells.take width :: pieces count width (cells.drop width)

theorem length_pieces {α : Type} (count width : Nat) (cells : List α) :
    (pieces count width cells).length = count := by
  induction count generalizing cells with
  | zero => rfl
  | succ count ih => simp [pieces, ih]

theorem flatten_pieces {α : Type} (count width : Nat) (cells : List α) :
    (pieces count width cells).flatten = cells.take (count * width) := by
  induction count generalizing cells with
  | zero => simp [pieces]
  | succ count ih =>
    rw [pieces, List.flatten_cons, ih, Nat.succ_mul, Nat.add_comm (count * width), List.take_add]

structure Tensor where
  shape : List Nat
  cells : Cells

namespace Tensor

def Fits (tensor : Tensor) : Prop := tensor.cells.length = volume tensor.shape

def type (tensor : Tensor) : ElementType := tensor.cells.type

def rank (tensor : Tensor) : Nat := tensor.shape.length

def numCells (tensor : Tensor) : Nat := volume tensor.shape

def size (tensor : Tensor) (axis : Nat) : Except TensorFault Nat :=
  match tensor.shape[axis]? with
  | some size => .ok size
  | none => .error (.noAxis axis tensor.shape)

def vector (tensor : Tensor) : Except TensorFault Nat :=
  match tensor.shape with
  | [size] => .ok size
  | shape => .error (.wrongRank 1 shape)

def matrix (tensor : Tensor) : Except TensorFault (Nat × Nat) :=
  match tensor.shape with
  | [rows, columns] => .ok (rows, columns)
  | shape => .error (.wrongRank 2 shape)

def ofTokens (tokens : List UInt32) : Tensor := ⟨[tokens.length], .u32 tokens⟩

def zeros (shape : List Nat) : Tensor := ⟨shape, .i64 (List.replicate (volume shape) 0)⟩

def flatten (tensor : Tensor) : Tensor := ⟨[volume tensor.shape], tensor.cells⟩

def narrow (tensor : Tensor) (axis start count : Nat) : Except TensorFault Tensor :=
  match tensor.shape[axis]? with
  | none => .error (.noAxis axis tensor.shape)
  | some size =>
    if size < start + count then .error .outOfRange
    else
      let outer := volume (tensor.shape.take axis)
      let inner := volume (tensor.shape.drop (axis + 1))
      .ok ⟨tensor.shape.set axis count, tensor.cells.rearrange fun cells =>
        (pieces outer (size * inner) cells).flatMap fun piece =>
          (piece.drop (start * inner)).take (count * inner)⟩

def squeeze (tensor : Tensor) (axis : Nat) : Except TensorFault Tensor :=
  match tensor.shape[axis]? with
  | none => .error (.noAxis axis tensor.shape)
  | some size => .ok (if size = 1 then { tensor with shape := tensor.shape.eraseIdx axis } else tensor)

def unsqueeze (tensor : Tensor) (axis : Nat) : Tensor :=
  { tensor with shape := tensor.shape.insertIdx axis 1 }

def selectRows (tensor : Tensor) (rows : List Nat) : Except TensorFault Tensor :=
  match tensor.shape with
  | [] => .error (.noAxis 0 [])
  | size :: rest =>
    if rows.all (· < size) then
      .ok ⟨rows.length :: rest, tensor.cells.rearrange fun cells =>
        rows.flatMap fun row => (cells.drop (row * volume rest)).take (volume rest)⟩
    else .error .outOfRange

def spread {α : Type} : List (Nat × Nat) → List α → List α
  | [], cells => cells
  | (size, target) :: rest, cells =>
    let parts := (pieces size (volume (rest.map Prod.fst)) cells).map (spread rest)
    -- The only part of an axis of size one is repeated.
    if size = target then parts.flatten else (List.replicate target parts).flatten.flatten

def axesFor (tensor : Tensor) (target : List Nat) : List (Nat × Nat) :=
  (List.replicate (target.length - tensor.shape.length) 1 ++ tensor.shape).zip target

def canBroadcast (tensor : Tensor) (target : List Nat) : Bool :=
  tensor.shape.length ≤ target.length &&
    (tensor.axesFor target).all fun axis => axis.1 = axis.2 || axis.1 = 1

def broadcast (tensor : Tensor) (target : List Nat) : Except TensorFault Tensor :=
  if tensor.canBroadcast target then
    .ok ⟨target, tensor.cells.rearrange (spread (tensor.axesFor target))⟩
  else .error .shapeMismatch

def append (left right : Tensor) (axis : Nat) : Except TensorFault Tensor :=
  match left.shape[axis]?, right.shape[axis]? with
  | some leftSize, some rightSize =>
    if left.shape.length = right.shape.length ∧ left.shape.set axis 0 = right.shape.set axis 0 then
      let outer := volume (left.shape.take axis)
      let inner := volume (left.shape.drop (axis + 1))
      -- For each place on the axes in front, the run of one tensor and then that of the other.
      let merge := fun {α : Type} (front back : List α) =>
        (List.zipWith (· ++ ·) (pieces outer (leftSize * inner) front)
          (pieces outer (rightSize * inner) back)).flatten
      match left.cells.join? merge right.cells with
      | some cells => .ok ⟨left.shape.set axis (leftSize + rightSize), cells⟩
      | none => .error .wrongType
    else .error .shapeMismatch
  | _, _ => .error (.noAxis axis left.shape)

/-- Tensors end to end along one axis. A single tensor is returned as it is. -/
def concat (axis : Nat) : List Tensor → Except TensorFault Tensor
  | [] => .error .shapeMismatch
  | first :: rest => rest.foldlM (fun joined next => joined.append next axis) first

end Tensor

end SlotServe
