import SlotServe.Engine.Table
import SlotServe.Proofs.Block.Alike

/-! The course of a decode step. Rows without blocks stop, the others get their next token, and every
row is written out. The cache has a say only in which rows stop and in whether there is room. -/
namespace SlotServe.EngineSettings

variable (settings : EngineSettings) (table : TransitionTable) (state : DecodeState)
  (sampler : Option Sampler)

def nextTokens (tokens : List UInt32) : Except Fault (List UInt32 × List Float32) := do
  let scores ← table.rowsOf tokens
  let next ← pickTokens scores sampler
  return (next, ← ofTensor (Sampling.tokenLogProbs scores next))

def stepRows : EStateM Fault SlotBlocks DecodeState :=
  let places := stepping state
  if places.isEmpty then pure state
  else do
    let (next, logProbs) ← answer (nextTokens table sampler (places.map (·.2.2)))
    advance state (places.map fun place => (place.1, place.2.1)) next logProbs

def writeRows : EStateM Fault SlotBlocks (DecodeState × ResultBuffer) := do
  let buffer ← answer (ResultBuffer.ofSamples (state.rows.map (·.sample)) settings.samplesPerSlot)
  return (state, buffer)

theorem generate_eq (cache : SlotBlocks) :
    settings.generate table state sampler cache =
      (stepRows table (settle cache state) sampler >>= settings.writeRows) cache := by
  unfold generate stepRows
  rw [get_bind]
  dsimp only
  split
  · rfl
  · simp only [nextTokens, answer_bind, bind_assoc]
    rfl

variable {cache twin : SlotBlocks}

theorem settle_alike (alike : cache.Alike twin) : settle cache state = settle twin state := by
  simp only [settle, alike.isLive]

theorem advance_alike (places : List (Nat × Nat)) (tokens : List UInt32) (logProbs : List Float32) :
    Mirrors SlotBlocks.Alike (advance state places tokens logProbs)
      (advance state places tokens logProbs) := by
  induction places generalizing state tokens logProbs with
  | nil => exact mirrors_pure state
  | cons place rest ih =>
    obtain ⟨slot, row⟩ := place
    have reserved := SlotBlocks.reserve_alike slot row 1
    match tokens, logProbs with
    | _ :: tokens, _ :: logProbs => exact mirrors_bind reserved fun _ => ih _ tokens logProbs
    | [], _ => exact mirrors_bind reserved fun _ => mirrors_throw _
    | _ :: _, [] => exact mirrors_bind reserved fun _ => mirrors_throw _

/-- A decode step answers the same on caches that differ only in which blocks the rows own. -/
theorem generate_alike :
    Mirrors SlotBlocks.Alike (settings.generate table state sampler)
      (settings.generate table state sampler) := by
  have stepped (state : DecodeState) :
      Mirrors SlotBlocks.Alike (stepRows table state sampler) (stepRows table state sampler) := by
    unfold stepRows
    dsimp only
    split
    · exact mirrors_pure state
    · exact mirrors_bind (mirrors_answer _) fun next => advance_alike state _ _ _
  intro cache twin alike
  rw [generate_eq, generate_eq, settle_alike state alike]
  exact mirrors_bind (stepped _)
    (fun state => mirrors_bind (mirrors_answer _) fun buffer => mirrors_pure _) cache twin alike

end SlotServe.EngineSettings
