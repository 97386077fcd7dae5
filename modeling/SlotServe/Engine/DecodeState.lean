import SlotServe.Prompt.Request
import SlotServe.Result.Buffer
/-! What prefill hands on, and the decode rows that it seeds. -/
namespace SlotServe

structure Prefilled where
  /-- Every prompt token in the cache. -/
  context : List UInt32
  firstTokens : List UInt32
  logProbs : List Float32
  requestId : Option RequestId
  deriving BEq

/-- One row of the batch. A free row is the default one. -/
structure DecodeRow where
  active : Bool := false
  /-- The tokens of the row, the last one first. -/
  latest : List UInt32 := []
  /-- Tokens generated so far, the one from prefill included. -/
  generated : Nat := 0
  requestId : Option RequestId := none
  lastLogProb : Float32 := 0
  deriving BEq

namespace DecodeRow

def tokens (row : DecodeRow) : List UInt32 := row.latest.reverse

def seeded (start : Prefilled) (sample : Nat) : Except Fault DecodeRow :=
  match start.firstTokens[sample]?, start.logProbs[sample]? with
  | some token, some logProb =>
    .ok { active := true, latest := token :: start.context.reverse, generated := 1,
          requestId := start.requestId, lastLogProb := logProb }
  | _, _ => .error (.defect .outOfBounds)

def lastToken (row : DecodeRow) : Option UInt32 := row.latest.head?

theorem lastToken_eq (row : DecodeRow) : row.lastToken = row.tokens.getLast? := by
  simp [lastToken, tokens]

def push (row : DecodeRow) (token : UInt32) (logProb : Float32) : DecodeRow :=
  { row with latest := token :: row.latest, generated := row.generated + 1,
             lastLogProb := logProb }

theorem tokens_push (row : DecodeRow) (token : UInt32) (logProb : Float32) :
    (row.push token logProb).tokens = row.tokens ++ [token] := by
  simp [push, tokens]

def sample (row : DecodeRow) : RowSample :=
  if row.active then
    (RowSample.single (row.lastToken.getD 0) true row.generated).withLogProb [row.lastLogProb]
  else (RowSample.single 0 false 0).withLogProb [0]

end DecodeRow

structure DecodeState where
  slots : List (List DecodeRow)
  deriving BEq

namespace DecodeState

def fresh (numSlots samples : Nat) : DecodeState :=
  ⟨List.replicate numSlots (List.replicate samples {})⟩

def numSlots (state : DecodeState) : Nat := state.slots.length

def rows (state : DecodeState) : List DecodeRow := state.slots.flatten

def row? (state : DecodeState) (slot row : Nat) : Option DecodeRow :=
  state.slots[slot]?.bind (·[row]?)

def activeSlots (state : DecodeState) : List Nat :=
  (state.slots.zipIdx.filter fun slot => slot.1.any (·.active)).map (·.2)

def setSlot (state : DecodeState) (slot : Nat) (rows : List DecodeRow) : DecodeState :=
  ⟨state.slots.set slot rows⟩

def modifyRow (state : DecodeState) (slot row : Nat) (change : DecodeRow → DecodeRow) : DecodeState :=
  ⟨state.slots.modify slot (·.modify row change)⟩

end DecodeState

end SlotServe
