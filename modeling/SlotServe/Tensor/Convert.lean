import SlotServe.Binary32.Basic
import SlotServe.Tensor.Basic
/-! Conversion of cells between element types, and typed access to them. Real cells are truncated
and saturate, no number counts as zero; whole cells wrap into a narrower word. -/
namespace SlotServe

namespace Cells

def toU32 : Cells → List UInt32
  | .u8 cells => cells.map UInt8.toUInt32
  | .u32 cells => cells
  | .i64 cells => cells.map fun cell => cell.toUInt64.toUInt32
  | .bf16 bits => bits.map fun bits => (Binary32.ofBrain bits).toUInt32
  | .f16 bits => bits.map fun bits => (Binary32.ofHalf bits).toUInt32
  | .f32 bits => bits.map fun bits => (Float32.ofBits bits).toUInt32
  | .f64 bits => bits.map fun bits => (Float.ofBits bits).toUInt32

def toI64 : Cells → List Int64
  | .u8 cells => cells.map fun cell => cell.toUInt64.toInt64
  | .u32 cells => cells.map fun cell => cell.toUInt64.toInt64
  | .i64 cells => cells
  | .bf16 bits => bits.map fun bits => (Binary32.ofBrain bits).toInt64
  | .f16 bits => bits.map fun bits => (Binary32.ofHalf bits).toInt64
  | .f32 bits => bits.map fun bits => (Float32.ofBits bits).toInt64
  | .f64 bits => bits.map fun bits => (Float.ofBits bits).toInt64

def toF32 : Cells → List UInt32
  | .u8 cells => cells.map fun cell => cell.toFloat32.toBits
  | .u32 cells => cells.map fun cell => cell.toFloat32.toBits
  | .i64 cells => cells.map fun cell => cell.toFloat32.toBits
  | .bf16 bits => bits.map Binary32.brainBits
  | .f16 bits => bits.map Binary32.halfBits
  | .f32 bits => bits
  | .f64 bits => bits.map fun bits => (Binary32.narrow (Float.ofBits bits)).toBits

end Cells

namespace Tensor

def toU32 (tensor : Tensor) : Tensor := ⟨tensor.shape, .u32 tensor.cells.toU32⟩

def toI64 (tensor : Tensor) : Tensor := ⟨tensor.shape, .i64 tensor.cells.toI64⟩

def toF32 (tensor : Tensor) : Tensor := ⟨tensor.shape, .f32 tensor.cells.toF32⟩

def tokens (tensor : Tensor) : List UInt32 := tensor.cells.toU32

def vectorI64 (tensor : Tensor) : Except TensorFault (List Int64) :=
  match tensor.shape, tensor.cells with
  | [_], .i64 cells => .ok cells
  | [_], _ => .error .wrongType
  | shape, _ => .error (.wrongRank 1 shape)

def vectorF32 (tensor : Tensor) : Except TensorFault (List UInt32) :=
  match tensor.shape, tensor.cells with
  | [_], .f32 bits => .ok bits
  | [_], _ => .error .wrongType
  | shape, _ => .error (.wrongRank 1 shape)

def rowsI64 (tensor : Tensor) : Except TensorFault (List (List Int64)) :=
  match tensor.shape, tensor.cells with
  | [rows, columns], .i64 cells => .ok (pieces rows columns cells)
  | [_, _], _ => .error .wrongType
  | shape, _ => .error (.wrongRank 2 shape)

def rowsF32 (tensor : Tensor) : Except TensorFault (List (List UInt32)) :=
  match tensor.shape, tensor.cells with
  | [rows, columns], .f32 bits => .ok (pieces rows columns bits)
  | [_, _], _ => .error .wrongType
  | shape, _ => .error (.wrongRank 2 shape)

end Tensor

end SlotServe
