import SlotServe.Engine.Executor
import SlotServe.Engine.DecodeState
import SlotServe.Block.Slots
import SlotServe.Sampling.Draw
import SlotServe.Sampling.Softmax
/-! The executor that takes scores from a transition table: the row of a sequence's last token holds
the score of every next token. There is no model behind it, but it honours every part of the contract:
rows by slot, several samples, log probabilities and the account of cache blocks. -/
namespace SlotServe

open SlotServe.Random (WordStream)

structure TransitionTable where
  scores : Tensor

namespace TransitionTable

def vocabSize (table : TransitionTable) : Nat := table.scores.shape.head?.getD 0

def rowsOf (table : TransitionTable) (tokens : List UInt32) : Except Fault Tensor :=
  match tokens.find? fun token => table.vocabSize ≤ token.toNat with
  | some token => .error (.executor (.outsideVocabulary token.toNat table.vocabSize))
  | none => ofTensor (table.scores.selectRows (tokens.map UInt32.toNat))

def randomScores : Nat → WordStream → List Float32
  | 0, _ => []
  | count + 1, stream =>
    let (unit, stream) := stream.nextUnit
    unit * 4 :: randomScores count stream

def random (vocabSize : Nat) (seed : UInt64) : Except Fault TransitionTable := do
  let count ← orDefect .overflow (Size.mul? vocabSize vocabSize)
  if !Size.addressable count 4 then throw (.defect .capacity)
  return ⟨⟨[vocabSize, vocabSize], .ofReals (randomScores count (.ofSeed seed))⟩⟩

end TransitionTable

def pickTokens (scores : Tensor) (sampler : Option Sampler) : Except Fault (List UInt32) := do
  let rows ← ofTensor (scores.size 0)
  let chosen ← ofTensor (match sampler with
    | some sampler => sampler scores
    | none => Sampling.greedyTokens scores)
  let tokens := chosen.tokens
  if tokens.length ≠ rows then throw (.layout (.sampleCount tokens.length rows))
  return tokens

def contextOf (request : PrefillRequest Prefilled) : Except Fault (List UInt32) := do
  let lead ← ofTensor (request.padded.flatten.narrow 0 0 request.trueLength)
  match request.carried with
  | none => return lead.tokens
  | some carried =>
    if lead.tokens.length < carried.length then throw (.defect .outOfBounds)
    return carried.cache.context ++ lead.tokens.drop carried.length

namespace EngineSettings

variable (settings : EngineSettings)

def scoreRequest (table : TransitionTable) (request : PrefillRequest Prefilled) :
    Except Fault (List UInt32 × Tensor) := do
  request.validate settings.maxPrefillLength
  let context ← contextOf request
  match context.getLast? with
  | none => throw .emptyPrompt
  | some last => return (context, ← table.rowsOf [last])

def prefill (table : TransitionTable) (request : PrefillRequest Prefilled) :
    Except Fault (Prefilled × ResultBuffer) := do
  let (context, scores) ← settings.scoreRequest table request
  let tokens ← pickTokens scores request.sampler
  let logProbs ← ofTensor (Sampling.tokenLogProbs scores tokens)
  match tokens with
  | [] => throw (.defect .outOfBounds)
  | first :: _ =>
    let buffer ← ResultBuffer.ofSamples [(RowSample.single first true 1).withLogProb logProbs] 1
    return (⟨context, tokens, logProbs, request.requestId⟩, buffer)

def firstTokens (scores : Tensor) (vocabSize : Nat) (sampler : Option Sampler)
    (seed : Option UInt64) (count : Nat) : Except Fault (List UInt32 × List Float32) := do
  match sampler with
  | some sampler =>
    let target := [count, vocabSize]
    if scores.canBroadcast target && !Size.addressable (volume target) scores.type.bytes then
      throw (.defect .capacity)
    let batch ← ofTensor (scores.broadcast target)
    let tokens ← pickTokens batch (some sampler)
    return (tokens, ← ofTensor (Sampling.tokenLogProbs batch tokens))
  | none =>
    let row ← ofTensor (scores.squeeze 0)
    let row ← ofTensor row.vectorF32
    let seed := seed.getD settings.seed
    let candidates := Sampling.Candidates.ofRow (row.map Float32.ofBits) (settings.sampling (some seed))
    let (draws, _) ← ofDefect (candidates.draws count (.ofSeed seed))
    return (draws.map (·.token), draws.map (·.logProb))

def prefillMany (table : TransitionTable) (request : PrefillRequest Prefilled)
    (seed : Option UInt64) (count : Nat) : Except Fault (Prefilled × ResultBuffer) := do
  if count = 0 then throw (.layout .noSamples)
  let (context, scores) ← settings.scoreRequest table request
  let (tokens, logProbs) ←
    settings.firstTokens scores table.vocabSize request.sampler seed count
  let samples := List.zipWith
    (fun token logProb => (RowSample.single token true 1).withLogProb [logProb]) tokens logProbs
  let buffer ← ResultBuffer.ofSamples samples count
  return (⟨context, tokens, logProbs, request.requestId⟩, buffer)

def seedRows (start : Prefilled) (requestId : Option RequestId) :
    Nat → Nat → Except Fault (List DecodeRow)
  | _, 0 => .ok []
  | row, rows + 1 => do
    let seeded ← DecodeRow.seeded start (if start.firstTokens.length = 1 then 0 else row)
    let rest ← seedRows start requestId (row + 1) rows
    return { seeded with requestId := requestId <|> seeded.requestId } :: rest

/-- Reserve blocks for every row of a slot, or for none: when they do not suffice, those already
reserved are given back. -/
def reserveSlot (slot count : Nat) : EStateM Fault SlotBlocks Unit := fun cache =>
  match SlotBlocks.reserveRows slot count 0 settings.samplesPerSlot cache with
  | .ok _ cache => .ok () cache
  | .error (.defect cause) cache => .error (.defect cause) cache
  | .error fault cache =>
    match SlotBlocks.freeSlot slot cache with
    | .ok _ cache => .error fault cache
    | .error other cache => .error other cache

/-- Put a prefilled prompt into a slot. Blocks that the slot still holds are given back first, and
rows are written only once every block is reserved. -/
def insertRows (start : Prefilled) (state : DecodeState) (slot : Nat)
    (requestId : Option RequestId) : EStateM Fault SlotBlocks DecodeState := do
  let found := start.firstTokens.length
  if found ≠ 1 ∧ found ≠ settings.samplesPerSlot then
    throw (.sampleCountMismatch settings.samplesPerSlot found)
  let tables ← answer ((← get).rows slot)
  if tables.any fun table => !table.isEmpty then
    let _ ← SlotBlocks.freeSlot slot
  let length ← answer (orDefect .overflow (Size.add? start.context.length 1))
  settings.reserveSlot slot length
  let rows ← answer (seedRows start requestId 0 settings.samplesPerSlot)
  return state.setSlot slot rows

def tryInsertRows (start : Prefilled) (state : DecodeState) (slot : Nat)
    (requestId : Option RequestId) : EStateM (Rejected DecodeState) SlotBlocks DecodeState :=
  fun cache =>
    let inserted := do
      answer (checkSlot settings.maxConcurrentDecodes slot)
      settings.insertRows start state slot requestId
    match inserted cache with
    | .ok next cache => .ok next cache
    | .error (.defect cause) cache => .error (.consumed (.defect cause)) cache
    | .error fault cache => .error ⟨fault, some state⟩ cache

def insertEach (start : Prefilled) : DecodeState → List Nat → EStateM Fault SlotBlocks DecodeState
  | state, [] => pure state
  | state, slot :: rest => do
    insertEach start (← settings.insertRows start state slot none) rest

def settle (cache : SlotBlocks) (state : DecodeState) : DecodeState :=
  ⟨state.slots.zipIdx.map fun slot => slot.1.zipIdx.map fun row =>
    if row.1.active && !cache.isLive slot.2 row.2 then {} else row.1⟩

def stepping (state : DecodeState) : List (Nat × Nat × UInt32) :=
  state.slots.zipIdx.flatMap fun slot => (slot.1.zipIdx.filter (·.1.active)).map fun row =>
    (slot.2, row.2, row.1.lastToken.getD 0)

def advance : DecodeState → List (Nat × Nat) → List UInt32 → List Float32 →
    EStateM Fault SlotBlocks DecodeState
  | state, [], _, _ => pure state
  | state, (slot, row) :: rest, token :: tokens, logProb :: logProbs => do
    SlotBlocks.reserve slot row 1
    advance (state.modifyRow slot row (·.push token logProb)) rest tokens logProbs
  | _, (slot, row) :: _, _, _ => do
    SlotBlocks.reserve slot row 1
    throw (.defect .outOfBounds)

/-- One step of every row that is active and owns blocks. The sampler sees their score rows
together, and nothing when there are none. -/
def generate (table : TransitionTable) (state : DecodeState) (sampler : Option Sampler) :
    EStateM Fault SlotBlocks (DecodeState × ResultBuffer) := do
  let state := settle (← get) state
  let places := stepping state
  let state ←
    if places.isEmpty then pure state
    else do
      let scores ← answer (table.rowsOf (places.map (·.2.2)))
      let tokens ← answer (pickTokens scores sampler)
      let logProbs ← answer (ofTensor (Sampling.tokenLogProbs scores tokens))
      advance state (places.map fun place => (place.1, place.2.1)) tokens logProbs
  let buffer ← answer (ResultBuffer.ofSamples (state.rows.map (·.sample)) settings.samplesPerSlot)
  return (state, buffer)

def free (slot : Nat) : EStateM Fault SlotBlocks Unit := do
  answer (checkSlot settings.maxConcurrentDecodes slot)
  let _ ← SlotBlocks.freeSlot slot

def freshCache : SlotBlocks :=
  .fresh settings.blockSize settings.numBlocks settings.maxConcurrentDecodes settings.samplesPerSlot

def checkMemory : Except Fault Unit :=
  if SlotBlocks.fitsMemory settings.numBlocks settings.maxConcurrentDecodes settings.samplesPerSlot
  then .ok ()
  else .error (.defect .capacity)

def limits : Limits :=
  { maxConcurrentDecodes := settings.maxConcurrentDecodes
    samplesPerSlot := settings.samplesPerSlot
    maxPrefillLength := settings.maxPrefillLength
    useChunkedPrefill := settings.useChunkedPrefill
    prefillChunkSize := settings.prefillChunkSize }

def executor {V : Type} (build : VocabularySource → Except Fault V) :
    Executor SlotBlocks TransitionTable Prefilled DecodeState V :=
  { limits := settings.limits
    mesh := .single
    hosts := some [.host]
    placement := .replicated
    prefill := fun table request => answer (settings.prefill table request)
    prefillMany := fun table request seed count =>
      answer (settings.prefillMany table request seed count)
    generate := settings.generate
    insert := fun start state slot requestId => do
      answer (checkSlot settings.maxConcurrentDecodes slot)
      settings.insertRows start state slot requestId
    tryInsert := settings.tryInsertRows
    insertAll := fun start state slots => do
      answer (checkSlots settings.maxConcurrentDecodes slots)
      settings.insertEach start state slots
    free := settings.free
    loadModel := answer (TransitionTable.random settings.vocabSize settings.seed)
    initState := pure (.fresh settings.maxConcurrentDecodes settings.samplesPerSlot)
    vocabularySource := pure settings.tokenizer
    buildVocabulary := fun source => answer (build source) }

end EngineSettings

end SlotServe
