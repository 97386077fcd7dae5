import SlotServe.Settings.Engine
/-! The settings of a whole run: those of the executor and those of the workload, with the values
that a command line may put in their place. -/
namespace SlotServe

structure WorkloadSettings where
  numRequests : Nat := 16
  /-- Tokens generated for each request, the one from prefill included. -/
  maxNewTokens : Nat := 16
  promptLength : Nat := 24
  warmUp : Bool := true
  /-- Fills prompts up to a bucket. -/
  padId : Nat := 0
  deriving DecidableEq

structure RunSettings where
  engine : EngineSettings := {}
  workload : WorkloadSettings := {}
  deriving BEq

structure Overrides where
  numRequests : Option Nat := none
  maxNewTokens : Option Nat := none
  promptLength : Option Nat := none
  noWarmUp : Bool := false
  maxConcurrentDecodes : Option Nat := none
  samplesPerSlot : Option Nat := none
  chunkedPrefill : Bool := false
  seed : Option UInt64 := none

namespace RunSettings

def canSplit (settings : RunSettings) : Bool :=
  settings.engine.useChunkedPrefill &&
    settings.engine.prefillChunkSize ≤ settings.engine.maxPrefillLength

def brokenRule (settings : RunSettings) : Option SettingsRule :=
  match settings.engine.brokenRule with
  | some rule => some rule
  | none =>
    let length := settings.workload.promptLength
    let limit := settings.engine.maxPrefillLength
    if settings.workload.maxNewTokens = 0 then some .maxNewTokens
    else if length = 0 then some .promptLength
    else if limit < length && !settings.canSplit then some (.promptTooLong length limit)
    else none

def validate (settings : RunSettings) : Except SettingsFault Unit :=
  match settings.brokenRule with
  | some rule => .error (.invalid rule)
  | none => .ok ()

def merge (settings : RunSettings) (given : Overrides) : RunSettings :=
  let engine := settings.engine
  let workload := settings.workload
  { engine := { engine with
      maxConcurrentDecodes := given.maxConcurrentDecodes.getD engine.maxConcurrentDecodes
      samplesPerSlot := given.samplesPerSlot.getD engine.samplesPerSlot
      useChunkedPrefill := given.chunkedPrefill || engine.useChunkedPrefill
      seed := given.seed.getD engine.seed }
    workload := { workload with
      numRequests := given.numRequests.getD workload.numRequests
      maxNewTokens := given.maxNewTokens.getD workload.maxNewTokens
      promptLength := given.promptLength.getD workload.promptLength
      warmUp := !given.noWarmUp && workload.warmUp } }

end RunSettings

end SlotServe
