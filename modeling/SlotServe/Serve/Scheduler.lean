import SlotServe.Engine.Chunked
import SlotServe.Engine.WarmUp
import SlotServe.Result.Buffer
import SlotServe.Serve.Report
import SlotServe.Size
/-! The scheduler. Waiting requests are admitted into free slots, every occupied slot advances by one
token a step, and a slot is freed once its request has all its tokens. A request that the cache has
no room for waits at the head of the queue until a running one gives blocks back. -/
namespace SlotServe

structure Transcript where
  /-- The last token first. -/
  latest : List UInt32
  length : Nat
  counted : length = latest.length
  deriving DecidableEq

namespace Transcript

def empty : Transcript := ⟨[], 0, rfl⟩

def tokens (transcript : Transcript) : List UInt32 := transcript.latest.reverse

def extend (transcript : Transcript) (tokens : List UInt32) : Transcript :=
  ⟨tokens.reverse ++ transcript.latest, transcript.length + tokens.length, by
    rw [List.length_append, List.length_reverse, transcript.counted, Nat.add_comm]⟩

theorem tokens_extend (transcript : Transcript) (tokens : List UInt32) :
    (transcript.extend tokens).tokens = transcript.tokens ++ tokens := by
  simp [extend, Transcript.tokens]

theorem length_tokens (transcript : Transcript) : transcript.tokens.length = transcript.length := by
  rw [Transcript.tokens, List.length_reverse, transcript.counted]

end Transcript

structure Occupant where
  request : Request
  samples : List Transcript
  deriving DecidableEq

namespace Occupant

def ofRequest (request : Request) (samplesPerSlot : Nat) : Occupant :=
  ⟨request, List.replicate samplesPerSlot .empty⟩

def append : List Transcript → List RowSample → List Transcript
  | sample :: samples, row :: rows => sample.extend row.validTokens :: append samples rows
  | samples, _ => samples

def numTokens (occupant : Occupant) : Nat := Size.total (occupant.samples.map (·.length))

def absorb (occupant : Occupant) (buffer : ResultBuffer) (slot : Nat) : Except Fault Occupant := do
  let view ← buffer.slotView slot
  return { occupant with samples := append occupant.samples (← view.samples) }

def isDone (occupant : Occupant) : Bool :=
  occupant.samples.all fun sample => occupant.request.maxNewTokens ≤ sample.length

def completion (occupant : Occupant) (slot : Nat) : Completion :=
  ⟨occupant.request.id, occupant.request.prompt.length, slot,
    occupant.samples.map (·.tokens.take occupant.request.maxNewTokens)⟩

end Occupant

structure Board (σ : Type) where
  slots : List (Option Occupant)
  report : Report
  engine : σ

namespace Board

variable {σ α : Type}

def onEngine (act : EStateM Fault σ α) : EStateM Fault (Board σ) α :=
  zoom Board.engine (fun engine board => { board with engine }) act

def note (change : Report → Report) : EStateM Fault (Board σ) Unit :=
  modify fun board => { board with report := change board.report }

def fail (request : Request) : EStateM Fault (Board σ) Unit :=
  note fun report => { report with failed := report.failed ++ [request.id] }

def firstFree (board : Board σ) : Option Nat :=
  board.slots.findIdx? Option.isNone

def anyOccupied (board : Board σ) : Bool := board.slots.any Option.isSome

def occupied (board : Board σ) : List (Nat × Occupant) :=
  board.slots.zipIdx.filterMap fun slot => slot.1.map fun occupant => (slot.2, occupant)

def finished (board : Board σ) : List (Nat × Occupant) := board.occupied.filter (·.2.isDone)

def setSlot (slot : Nat) (occupant : Option Occupant) : EStateM Fault (Board σ) Unit :=
  modify fun board => { board with slots := board.slots.set slot occupant }

end Board

structure Scheduler (σ M P S V : Type) where
  executor : Executor σ M P S V
  model : M
  /-- The lengths that prompts are padded to. -/
  buckets : List Nat
  padId : UInt32
  /-- Prefill of several samples draws from this seed plus the number of earlier admissions. -/
  seed : UInt64 := 0

namespace Scheduler

variable {σ M P S V : Type}

/-- Prompts are padded to the buckets of the last warm-up, or, without one, to those of the default
buckets that the executor accepts. -/
def bucketsFor (warmed : Option (List Nat)) (limits : Limits) : List Nat :=
  match warmed with
  | some (bucket :: rest) => bucket :: rest
  | _ => bucketsUpTo defaultBuckets limits.maxPrefillLength

variable (scheduler : Scheduler σ M P S V)

def prefill (request : Request) (seed : UInt64) : EStateM Fault σ (P × ResultBuffer) := do
  let (tokens, trueLength) ← answer (padPrompt request.prompt scheduler.padId scheduler.buckets)
  let prompt : PrefillRequest P :=
    { padded := .ofTokens tokens, trueLength, requestId := some request.id }
  let samples := scheduler.executor.limits.samplesPerSlot
  if 1 < samples then scheduler.executor.prefillMany scheduler.model prompt (some seed) samples
  else scheduler.executor.prefillChunked scheduler.model prompt

def retire : List (Nat × Occupant) → EStateM Fault (Board σ) Unit
  | [] => pure ()
  | (slot, occupant) :: rest => do
    Board.setSlot slot none
    Board.onEngine (scheduler.executor.free slot)
    Board.note fun report =>
      { report with completions := report.completions ++ [occupant.completion slot] }
    retire rest

def retireAll : EStateM Fault (Board σ) Unit := do
  scheduler.retire (← get).finished

def seat (request : Request) (slot : Nat) (first : ResultBuffer) : EStateM Fault (Board σ) Unit := do
  let occupant := Occupant.ofRequest request scheduler.executor.limits.samplesPerSlot
  let occupant ← answer do occupant.absorb (← first.toHost) 0
  Board.note fun report =>
    { report with tokensGenerated := report.tokensGenerated + occupant.numTokens }
  Board.setSlot slot (some occupant)
  scheduler.retireAll

/-- Fill free slots from the head of the queue. Answers what is left of the queue, the decode state
and the number of admissions tried so far. A request is put off, and the filling ends, when the cache
has no room for it while some slot is occupied. -/
def fill : List Request → S → Nat → EStateM Fault (Board σ) (List Request × S × Nat)
  | [], state, tried => pure ([], state, tried)
  | request :: waiting, state, tried => do
    match (← get).firstFree with
    | none => pure (request :: waiting, state, tried)
    | some slot =>
      -- The seed follows the tries, so that a request that was put off draws from another one when it is tried again.
      let seed := scheduler.seed + UInt64.ofNat tried
      match ← Board.onEngine (attempt (scheduler.prefill request seed)) with
      | .error _ =>
        Board.fail request
        fill waiting state (tried + 1)
      | .ok (start, first) =>
        Board.note fun report => { report with prefills := report.prefills + 1 }
        match ← Board.onEngine (attempt
            (scheduler.executor.tryInsert start state slot (some request.id))) with
        | .ok next =>
          scheduler.seat request slot first
          fill waiting next (tried + 1)
        -- Without a decode state the run cannot go on.
        | .error ⟨fault, none⟩ => throw fault
        | .error ⟨fault, some returned⟩ =>
          -- Only a request in some slot can make room for the one that waits.
          if fault.isOutOfBlocks && (← get).anyOccupied then
            Board.note fun report => { report with deferred := report.deferred + 1 }
            pure (request :: waiting, returned, tried + 1)
          else
            Board.fail request
            fill waiting returned (tried + 1)

def absorbAll (buffer : ResultBuffer) : Nat → List (Option Occupant) →
    Except Fault (List (Option Occupant))
  | _, [] => .ok []
  | slot, none :: rest => do return none :: (← absorbAll buffer (slot + 1) rest)
  | slot, some occupant :: rest => do
    let occupant ← occupant.absorb buffer slot
    return some occupant :: (← absorbAll buffer (slot + 1) rest)

def seatedTokens (slots : List (Option Occupant)) : Nat :=
  Size.total (slots.map fun slot => (slot.map Occupant.numTokens).getD 0)

def step (state : S) : EStateM Fault (Board σ) S := do
  let (next, buffer) ← Board.onEngine (scheduler.executor.generate scheduler.model state none)
  let buffer ← answer buffer.toHost
  Board.note fun report => { report with generateSteps := report.generateSteps + 1 }
  let board ← get
  let slots ← answer (absorbAll buffer 0 board.slots)
  let emitted := seatedTokens slots - seatedTokens board.slots
  set { board with slots }
  Board.note fun report => { report with tokensGenerated := report.tokensGenerated + emitted }
  scheduler.retireAll
  return next

/-- Fill and step until every slot is free and nothing waits, or until `stop`, asked with the number
of steps made, says so. `steps` bounds the steps; a run that would need more does not progress. -/
def serveFrom (stop : Nat → Bool) : Nat → List Request → S → Nat → EStateM Fault (Board σ) Unit
  | steps, waiting, state, tried => do
    if stop (← get).report.generateSteps then
      Board.note fun report => { report with interrupted := true }
    else
      let (waiting, state, tried) ← scheduler.fill waiting state tried
      if (← get).anyOccupied then
        match steps with
        | 0 => throw .stalled
        | steps + 1 =>
          let state ← scheduler.step state
          serveFrom stop steps waiting state tried

def stepBound (requests : List Request) : Nat :=
  Size.total (requests.map fun request => request.maxNewTokens - 1)

def serve (requests : List Request) (stop : Nat → Bool) : EStateM Fault (Board σ) Unit := do
  let state ← Board.onEngine scheduler.executor.initState
  scheduler.serveFrom stop (stepBound requests) requests state 0

def releaseSlots : List Nat → Board σ → Option Fault × Board σ
  | [], board => (none, board)
  | slot :: rest, board =>
    let board := { board with slots := board.slots.set slot none }
    match scheduler.executor.free slot board.engine with
    | .ok _ engine => releaseSlots rest { board with engine }
    | .error fault engine =>
      -- The first failure is answered, and the slots after it are freed all the same.
      let (_, board) := releaseSlots rest { board with engine }
      (some fault, board)

def start (engine : σ) : Board σ :=
  ⟨List.replicate scheduler.executor.limits.maxConcurrentDecodes none, {}, engine⟩

/-- Serve the requests. Slots that are still occupied at the end, whatever ended the run, are
freed; a failure of the run comes before one of the release. -/
def run (requests : List Request) (stop : Nat → Bool) : EStateM Fault σ Report := fun engine =>
  let (failure, board) :=
    match scheduler.serve requests stop (scheduler.start engine) with
    | .ok _ board => (none, board)
    | .error fault board => (some fault, board)
  let (unreleased, board) := scheduler.releaseSlots (board.occupied.map (·.1)) board
  match failure <|> unreleased with
  | some fault => .error fault board.engine
  | none => .ok board.report board.engine

end Scheduler

end SlotServe
