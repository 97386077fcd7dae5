import SlotServe.Engine.Table
import SlotServe.Serve.Scheduler
/-! A whole run from its settings: an executor over a random transition table serves a synthetic
workload, after a warm-up if the settings ask for one. -/
namespace SlotServe

inductive RunFault
  | settings (cause : SettingsFault)
  | engine (cause : Fault)
  /-- One text for each bucket that failed. -/
  | warmUp (errors : List String)
  deriving DecidableEq

namespace RunFault

def message : RunFault → String
  | .settings cause => cause.message
  | .engine cause => cause.message
  | .warmUp errors => "warm-up failed: " ++ "; ".intercalate errors

def isDefect : RunFault → Bool
  | .settings (.defect _) | .engine (.defect _) => true
  | _ => false

end RunFault

def ofEngine {α : Type} : Except Fault α → Except RunFault α
  | .ok value => .ok value
  | .error cause => .error (.engine cause)

namespace RunSettings

def executor (settings : RunSettings) :
    Executor SlotBlocks TransitionTable Prefilled DecodeState Unit :=
  settings.engine.executor fun _ => .ok ()

def warmed (settings : RunSettings) (model : TransitionTable) :
    Except RunFault (Front SlotBlocks) :=
  let cold : Front SlotBlocks := .cold settings.engine.freshCache
  if settings.workload.warmUp then
    match settings.executor.warmUp model {} cold with
    | .ok stats front => if stats.isSuccess then .ok front else .error (.warmUp stats.errors)
    | .error cause _ => .error (.engine cause)
  else .ok cold

def simulate (settings : RunSettings) (idOf : Nat → RequestId) : Except RunFault Report := do
  let engine := settings.engine
  ofEngine engine.checkMemory
  let model ← ofEngine (TransitionTable.random engine.vocabSize engine.seed)
  let front ← settings.warmed model
  let requests ← ofEngine
    (syntheticRequests settings.workload engine.vocabSize engine.seed idOf)
  let scheduler : Scheduler (Front SlotBlocks) TransitionTable Prefilled DecodeState Unit :=
    { executor := settings.executor.front, model
      buckets := Scheduler.bucketsFor front.buckets engine.limits
      padId := .ofNat settings.workload.padId, seed := engine.seed }
  match scheduler.run requests (fun _ => false) front with
  | .ok report _ => return report
  | .error cause _ => throw (.engine cause)

end RunSettings

end SlotServe
