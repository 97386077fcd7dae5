import SlotServe.Tensor.Convert
import SlotServe.Size
/-! The packed results of one step. A row holds its tokens, a flag for each that says whether it is real, the
number of tokens generated so far, and the log probability of each token if they were kept. The tokens, flags and
lengths of every decode row share one matrix, and column ranges say where each of them lies. Rows are grouped by
slot: slot `s` owns the rows from `s * samplesPerSlot` on. Views cut the rows of slots out of the matrix. -/
namespace SlotServe

structure RowSample where
  tokens : List UInt32
  valid : List Bool
  length : Nat
  /-- The bits of each number. -/
  logProb : Option (List UInt32) := none

namespace RowSample

def single (token : UInt32) (valid : Bool) (length : Nat) : RowSample :=
  { tokens := [token], valid := [valid], length }

def withLogProb (sample : RowSample) (logProb : List Float32) : RowSample :=
  { sample with logProb := some (logProb.map Float32.toBits) }

def validTokens (sample : RowSample) : List UInt32 :=
  ((sample.tokens.zip sample.valid).filter (·.2)).map (·.1)

def cells (sample : RowSample) : List Int64 :=
  sample.tokens.map (·.toUInt64.toInt64) ++ sample.valid.map (fun flag => if flag then 1 else 0) ++
    [Int64.ofNat sample.length]

def ofCells (tokens valid : List Int64) (length : Int64) (logProb : Option (List UInt32)) :
    RowSample :=
  { tokens := tokens.map fun cell => cell.toUInt64.toUInt32
    valid := valid.map fun cell => cell != 0
    length := length.toNatClampNeg
    logProb }

end RowSample

structure ColumnRange where
  start : Nat
  stop : Nat
  deriving DecidableEq

namespace ColumnRange

def length (range : ColumnRange) : Nat := range.stop - range.start

def isEmpty (range : ColumnRange) : Bool := range.length = 0

/-- Each range starts before the other ends. For non-empty ranges this says that they share a
column. -/
def overlaps (left right : ColumnRange) : Bool := left.start < right.stop && right.start < left.stop

def Holds (range : ColumnRange) (column : Nat) : Prop := range.start ≤ column ∧ column < range.stop

end ColumnRange

structure SlotView where
  tokens : Tensor
  valid : Tensor
  lengths : Tensor
  logProb : Option Tensor

namespace SlotView

def numRows (view : SlotView) : Except Fault Nat := ofTensor view.lengths.vector

def collect (logProb : Option (List (List UInt32))) :
    Nat → List (List Int64) → List (List Int64) → List Int64 → Except Fault (List RowSample)
  | row, tokens :: moreTokens, valid :: moreValid, length :: moreLengths =>
    match logProb with
    | none => do
      let rest ← collect logProb (row + 1) moreTokens moreValid moreLengths
      return .ofCells tokens valid length none :: rest
    | some entries =>
      match entries[row]? with
      | none => .error (.defect .outOfBounds)
      | some entry => do
        let rest ← collect logProb (row + 1) moreTokens moreValid moreLengths
        return .ofCells tokens valid length (some entry) :: rest
  | _, _, _, _ => .ok []

def samples (view : SlotView) : Except Fault (List RowSample) := do
  let tokens ← ofTensor view.tokens.rowsI64
  let valid ← ofTensor view.valid.rowsI64
  let lengths ← ofTensor view.lengths.vectorI64
  let logProb ← match view.logProb with
    | none => pure none
    | some tensor => some <$> ofTensor tensor.toF32.rowsF32
  collect logProb 0 tokens valid lengths

end SlotView

structure ResultBuffer where
  data : Tensor
  tokensAt : ColumnRange
  validAt : ColumnRange
  lengthAt : ColumnRange
  samplesPerSlot : Nat
  logProb : Option Tensor

namespace ResultBuffer

def badRange (width : Nat) (ranges : List (String × ColumnRange)) : Option LayoutFault :=
  (ranges.find? fun range => range.2.isEmpty || width < range.2.stop).map fun range =>
    .badColumns range.1 range.2.start range.2.stop width

def sharedRange : List (String × ColumnRange) → Option LayoutFault
  | [] => none
  | first :: rest =>
    match rest.find? fun range => first.2.overlaps range.2 with
    | some range => some (.sharedColumns first.1 range.1)
    | none => sharedRange rest

/-- What is wrong with a layout, if anything. Ranges are looked at one by one before they are
compared: only non-empty ranges that overlap share a column. -/
def layoutFault (rows width : Nat) (tokensAt validAt lengthAt : ColumnRange)
    (samplesPerSlot : Nat) : Option LayoutFault :=
  let named := [("tokens_idx", tokensAt), ("valid_idx", validAt), ("length_idx", lengthAt)]
  match badRange width named with
  | some fault => some fault
  | none =>
    match sharedRange named with
    | some fault => some fault
    | none =>
      if samplesPerSlot = 0 ∨ rows % samplesPerSlot ≠ 0 then some (.unevenSlots rows samplesPerSlot)
      else none

def ofData (data : Tensor) (tokensAt validAt lengthAt : ColumnRange) (samplesPerSlot : Nat) :
    Except Fault ResultBuffer :=
  match data.shape with
  | [rows, width] =>
    match layoutFault rows width tokensAt validAt lengthAt samplesPerSlot with
    | some fault => .error (.layout fault)
    | none => .ok ⟨data, tokensAt, validAt, lengthAt, samplesPerSlot, none⟩
  | shape => .error (.layout (.notFlat shape))

def ofCanonical (data : Tensor) (width samplesPerSlot : Nat) : Except Fault ResultBuffer :=
  ofData data ⟨0, width⟩ ⟨width, 2 * width⟩ ⟨2 * width, 2 * width + 1⟩ samplesPerSlot

def numRows (buffer : ResultBuffer) : Except Fault Nat := ofTensor (buffer.data.size 0)

def numSlots (buffer : ResultBuffer) : Except Fault Nat := do
  let rows ← buffer.numRows
  if buffer.samplesPerSlot = 0 then throw (.defect .divisionByZero)
  return rows / buffer.samplesPerSlot

def withLogProb (buffer : ResultBuffer) (logProb : Tensor) : Except Fault ResultBuffer := do
  let rows ← buffer.numRows
  let found := logProb.shape.head?.getD 0
  if found ≠ rows then throw (.layout (.logProbRows found rows))
  return { buffer with logProb := some logProb }

def pack (tokens valid lengths : Tensor) (samplesPerSlot : Nat) : Except Fault ResultBuffer := do
  let (rows, width) ← ofTensor tokens.matrix
  let unpackable := Fault.layout (.unpackable tokens.shape valid.shape lengths.shape)
  let flags ← ofTensor valid.matrix
  if flags ≠ (rows, width) then throw unpackable
  let count ← ofTensor lengths.vector
  if count ≠ rows then throw unpackable
  let data ← ofTensor (Tensor.concat 1 [tokens.toI64, valid.toI64, lengths.toI64.unsqueeze 1])
  ofCanonical data width samplesPerSlot

def unevenRow (width : Nat) (samples : List RowSample) : Option LayoutFault :=
  (samples.find? fun sample => sample.tokens.length ≠ width || sample.valid.length ≠ width).map
    fun sample => .unevenRows width sample.tokens.length sample.valid.length

def logProbCells (width : Nat) : List RowSample → Except Fault (List UInt32)
  | [] => .ok []
  | sample :: rest => do
    let row := sample.logProb.getD []
    if row.length ≠ width then throw (.layout (.logProbWidth row.length width))
    return row ++ (← logProbCells width rest)

def ofSamples (samples : List RowSample) (samplesPerSlot : Nat) : Except Fault ResultBuffer := do
  let width := ((samples.head?).map (·.tokens.length)).getD 1
  let rows := samples.length
  if let some fault := unevenRow width samples then throw (.layout fault)
  let data := ⟨[rows, 2 * width + 1], .i64 (samples.flatMap RowSample.cells)⟩
  let buffer ← ofCanonical data width samplesPerSlot
  let carrying := samples.countP (·.logProb.isSome)
  if carrying = 0 then return buffer
  if carrying ≠ rows then throw .logProbMismatch
  buffer.withLogProb ⟨[rows, width], .f32 (← logProbCells width samples)⟩

def sameLayout (left right : ResultBuffer) : Bool :=
  left.tokensAt = right.tokensAt && left.validAt = right.validAt &&
    left.lengthAt = right.lengthAt && left.samplesPerSlot = right.samplesPerSlot

def concat : List ResultBuffer → Except Fault ResultBuffer
  | [] => .error (.layout .noParts)
  | first :: rest => do
    if !rest.all first.sameLayout then throw (.layout .unlikeParts)
    let parts := first :: rest
    let data ← ofTensor (Tensor.concat 0 (parts.map (·.data)))
    let buffer ← ofData data first.tokensAt first.validAt first.lengthAt first.samplesPerSlot
    let logProbs := parts.filterMap (·.logProb)
    if logProbs.isEmpty then return buffer
    if logProbs.length ≠ parts.length then throw .logProbMismatch
    buffer.withLogProb (← ofTensor (Tensor.concat 0 logProbs))

def checkSlot (buffer : ResultBuffer) (slot : Nat) : Except Fault Unit := do
  let numSlots ← buffer.numSlots
  if numSlots ≤ slot then throw (.slotOutOfRange slot numSlots)

/-- Cut rows into the regions of the layout. Lengths are replicated across their range and the
first column counts. No rows make empty regions of 64-bit cells. -/
def cutColumns (buffer : ResultBuffer) (rows : Tensor) (logProb : Option Tensor) :
    Except Fault SlotView := do
  let tokensAt := buffer.tokensAt
  let validAt := buffer.validAt
  if (← ofTensor (rows.size 0)) = 0 then
    return ⟨.zeros [0, tokensAt.length], .zeros [0, validAt.length], .zeros [0], logProb⟩
  let lengths ← ofTensor (rows.narrow 1 buffer.lengthAt.start 1)
  let lengths ← ofTensor (lengths.squeeze 1)
  let tokens ← ofTensor (rows.narrow 1 tokensAt.start tokensAt.length)
  let valid ← ofTensor (rows.narrow 1 validAt.start validAt.length)
  return ⟨tokens, valid, lengths, logProb⟩

def slotView (buffer : ResultBuffer) (slot : Nat) : Except Fault SlotView := do
  buffer.checkSlot slot
  let first := slot * buffer.samplesPerSlot
  let rows ← ofTensor (buffer.data.narrow 0 first buffer.samplesPerSlot)
  let logProb ← match buffer.logProb with
    | none => pure none
    | some tensor => some <$> ofTensor (tensor.narrow 0 first buffer.samplesPerSlot)
  buffer.cutColumns rows logProb

def rowsOf (buffer : ResultBuffer) : List Nat → Except Fault (List Nat)
  | [] => .ok []
  | slot :: rest => do
    buffer.checkSlot slot
    -- A row number is a word of 32 bits, and takes 4 bytes.
    let rows := (List.range buffer.samplesPerSlot).map fun row =>
      (slot * buffer.samplesPerSlot + row) % 0x100000000
    return rows ++ (← buffer.rowsOf rest)

def slotsView (buffer : ResultBuffer) (slots : List Nat) : Except Fault SlotView := do
  let count ← orDefect .overflow (Size.mul? slots.length buffer.samplesPerSlot)
  if !Size.addressable count 4 then throw (.defect .capacity)
  let chosen ← buffer.rowsOf slots
  let rows ← ofTensor (buffer.data.selectRows chosen)
  let logProb ← match buffer.logProb with
    | none => pure none
    | some tensor => some <$> ofTensor (tensor.selectRows chosen)
  buffer.cutColumns rows logProb

end ResultBuffer

inductive HostTransfer
  | ready (data : Tensor)
  | pending (outcome : Except TensorFault Tensor)
  /-- A copy whose worker died. -/
  | lost

namespace HostTransfer

def wait : HostTransfer → Except Fault Tensor
  | .ready data => .ok data
  | .pending outcome => ofTensor outcome
  | .lost => .error (.executor .transferPanicked)

end HostTransfer

namespace ResultBuffer

def startHostCopy (buffer : ResultBuffer) : HostTransfer := .ready buffer.data

def completeHostCopy (buffer : ResultBuffer) (transfer : HostTransfer) :
    Except Fault ResultBuffer := do
  let data ← transfer.wait
  if data.shape ≠ buffer.data.shape then
    throw (.layout (.hostShape data.shape buffer.data.shape))
  return { buffer with data }

def toHost (buffer : ResultBuffer) : Except Fault ResultBuffer :=
  buffer.completeHostCopy buffer.startHostCopy

end ResultBuffer

end SlotServe
