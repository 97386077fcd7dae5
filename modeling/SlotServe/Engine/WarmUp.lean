import SlotServe.Engine.Front
/-! Warm-up before the first request. For each prefill bucket that the executor accepts, one dummy
prompt goes through the whole life of a slot on a scratch decode state, so that every prompt shape is
seen once. A bucket that fails is reported, and the next one is tried. -/
namespace SlotServe

structure WarmUpPlan where
  buckets : List Nat := defaultBuckets
  /-- Generate steps for each bucket. -/
  decodeSteps : Nat := 1
  /-- The scratch slot. It must be free. -/
  slot : Nat := 0
  /-- Fills the dummy prompts. -/
  padId : UInt32 := 0

def WarmUpPlan.isNeeded (plan : WarmUpPlan) : Bool := !plan.buckets.isEmpty

structure WarmUpStats where
  /-- Buckets that went through the whole life of a slot. -/
  warmed : List Nat := []
  generateSteps : Nat := 0
  /-- One entry for each failed bucket. -/
  failures : List (Nat × Fault) := []
  deriving DecidableEq

namespace WarmUpStats

def errors (stats : WarmUpStats) : List String :=
  stats.failures.map fun failure => s!"bucket {failure.1}: {failure.2.message}"

def isSuccess (stats : WarmUpStats) : Bool := stats.failures.isEmpty

end WarmUpStats

namespace Executor

variable {σ M P S V : Type}

def generateTimes (executor : Executor σ M P S V) (model : M) : Nat → S → EStateM Fault σ S
  | 0, state => pure state
  | steps + 1, state => do
    let (next, _) ← executor.generate model state none
    generateTimes executor model steps next

/-- The dummy prompt of one bucket. The scratch slot is freed also when a step failed, and a failure
to free it is the one that is reported. -/
def warmBucket (executor : Executor σ M P S V) (model : M) (plan : WarmUpPlan) (bucket : Nat) :
    EStateM Fault σ Unit := do
  answer (checkLength bucket)
  let padded := Tensor.ofTokens (List.replicate bucket plan.padId)
  let (start, _) ← executor.prefill model { padded, trueLength := bucket }
  let state ← executor.initState
  let lived ← attempt do
    let state ← executor.insert start state plan.slot none
    let _ ← executor.generateTimes model plan.decodeSteps state
  executor.free plan.slot
  answer lived

def warmBuckets (executor : Executor σ M P S V) (model : M) (plan : WarmUpPlan) :
    List Nat → EStateM Fault σ WarmUpStats
  | [] => pure {}
  | bucket :: rest => do
    match ← attempt (executor.warmBucket model plan bucket) with
    | .ok () =>
      let stats ← warmBuckets executor model plan rest
      return { stats with warmed := bucket :: stats.warmed,
                          generateSteps := plan.decodeSteps + stats.generateSteps }
    -- Only a defect keeps the other buckets from being tried.
    | .error (.defect cause) => throw (.defect cause)
    | .error fault =>
      let stats ← warmBuckets executor model plan rest
      return { stats with failures := (bucket, fault) :: stats.failures }

def warmUp (executor : Executor σ M P S V) (model : M) (plan : WarmUpPlan) :
    EStateM Fault (Front σ) WarmUpStats := do
  if plan.isNeeded then
    let buckets := bucketsUpTo plan.buckets executor.limits.maxPrefillLength
    let stats ← Front.onInner (executor.warmBuckets model plan buckets)
    modify fun front => { front with warm := stats.isSuccess, buckets := some stats.warmed }
    return stats
  else return {}

end Executor

end SlotServe
