import SlotServe.Size
/-! Devices on a grid of named axes, and how the leading axis of an array is spread over them. -/
namespace SlotServe

inductive Device
  | host
  deriving DecidableEq

inductive MeshFault
  | axisCount (names sizes : Nat)
  | deviceCount (expected found : Nat)
  | duplicateAxis (name : String)
  | emptyAxis (name : String)
  | unknownAxis (name : String)
  /-- More places than a size can count. -/
  | tooLarge
  /-- The extent of a share cannot be computed. -/
  | defect (cause : Defect)
  deriving DecidableEq

def MeshFault.message : MeshFault → String
  | .axisCount names sizes => s!"{names} axis names for {sizes} mesh dimensions"
  | .deviceCount expected found => s!"mesh shape needs {expected} devices, got {found}"
  | .duplicateAxis name => s!"axis `{name}` declared twice"
  | .emptyAxis name => s!"axis `{name}` has size 0"
  | .unknownAxis name => s!"no axis named `{name}`"
  | .tooLarge => "mesh shape is too large"
  | .defect cause => cause.message

structure Mesh where
  axes : List (String × Nat)
  devices : List Device
  deriving DecidableEq

namespace Mesh

def badAxis (seen : List String) : List (String × Nat) → Option MeshFault
  | [] => none
  | (name, size) :: rest =>
    if seen.contains name then some (.duplicateAxis name)
    else if size = 0 then some (.emptyAxis name)
    else badAxis (name :: seen) rest

def places? (total : Nat) : List Nat → Option Nat
  | [] => some total
  | size :: rest =>
    match Size.mul? total size with
    | some total => places? total rest
    | none => none

def ofDevices (names : List String) (shape : List Nat) (devices : List Device) :
    Except MeshFault Mesh :=
  if names.length ≠ shape.length then .error (.axisCount names.length shape.length)
  else
    let axes := names.zip shape
    match badAxis [] axes with
    | some fault => .error fault
    | none =>
      match places? 1 shape with
      | none => .error .tooLarge
      | some expected =>
        if devices.length ≠ expected then .error (.deviceCount expected devices.length)
        else .ok ⟨axes, devices⟩

def single : Mesh := ⟨[("data", 1)], [.host]⟩

def axisNames (mesh : Mesh) : List String := mesh.axes.map (·.1)

def shape (mesh : Mesh) : List Nat := mesh.axes.map (·.2)

def numDevices (mesh : Mesh) : Nat := mesh.devices.length

def axisSize (mesh : Mesh) (axis : String) : Option Nat := mesh.axes.lookup axis

end Mesh

inductive Sharding
  /-- Every device holds a full copy. -/
  | replicated
  /-- The leading axis is split evenly along a mesh axis. -/
  | partitioned (axis : String)
  deriving DecidableEq

def Sharding.shardLength (sharding : Sharding) (mesh : Mesh) (length : Nat) : Except MeshFault Nat :=
  match sharding with
  | .replicated => .ok length
  | .partitioned axis =>
    match mesh.axisSize axis with
    | none => .error (.unknownAxis axis)
    | some parts =>
      match Size.divideUp length parts with
      | .ok extent => .ok extent
      | .error cause => .error (.defect cause)

end SlotServe
