import SlotServe.Binary32.Basic
import SlotServe.Tensor.Basic
/-! The position of the extreme entry along the last axis of a tensor. Entries are compared in
order and only a strictly better one replaces the best so far, so ties go to the first and an entry
that is no number neither wins nor, once first, loses. -/
namespace SlotServe

def bestFrom {α : Type} (better : α → α → Bool) (best : α) (found : Nat) : Nat → List α → Nat
  | _, [] => found
  | place, entry :: rest =>
    if better best entry then bestFrom better entry place (place + 1) rest
    else bestFrom better best found (place + 1) rest

def bestIndex {α : Type} (better : α → α → Bool) : List α → Nat
  | [] => 0
  | first :: rest => bestFrom better first 0 1 rest

inductive Extreme
  | largest | smallest
  deriving DecidableEq

def Extreme.replaces {α : Type} [LT α] [DecidableRel (α := α) (· < ·)] (extreme : Extreme)
    (best entry : α) : Bool :=
  match extreme with
  | .largest => best < entry
  | .smallest => entry < best

def Cells.choose (extreme : Extreme) (count width : Nat) : Cells → List Nat
  | .u8 cells => (pieces count width cells).map (bestIndex extreme.replaces)
  | .u32 cells => (pieces count width cells).map (bestIndex extreme.replaces)
  | .i64 cells => (pieces count width cells).map (bestIndex extreme.replaces)
  | .bf16 bits => (pieces count width bits).map fun row => bestIndex extreme.replaces (row.map Binary32.ofBrain)
  | .f16 bits => (pieces count width bits).map fun row => bestIndex extreme.replaces (row.map Binary32.ofHalf)
  | .f32 bits => (pieces count width bits).map fun row => bestIndex extreme.replaces (row.map Float32.ofBits)
  | .f64 bits => (pieces count width bits).map fun row => bestIndex extreme.replaces (row.map Float.ofBits)

def Tensor.choose (tensor : Tensor) (extreme : Extreme) : Except TensorFault Tensor :=
  match tensor.shape.getLast? with
  | none => .error (.noAxis 0 [])
  | some width =>
    let outer := tensor.shape.dropLast
    if width = 0 ∨ volume outer = 0 then .error .empty
    else .ok ⟨outer, .u32 ((tensor.cells.choose extreme (volume outer) width).map UInt32.ofNat)⟩

end SlotServe
