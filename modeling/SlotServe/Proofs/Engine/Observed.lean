import SlotServe.Engine.Chunked
import SlotServe.Proofs.Outcome

/-! An executor that is watched: the attempts to take up a prompt are noted down, with what came of
them. Watching changes nothing, so an observed executor and the executor itself give the same answers. -/
namespace SlotServe

variable {σ τ ε α M P S V : Type}

structure Attempt (P : Type) where
  start : P
  slot : Nat
  requestId : Option RequestId
  admitted : Bool

structure Observed (σ P : Type) where
  attempts : List (Attempt P)
  inner : σ

namespace Observed

def onInner (act : EStateM ε σ α) : EStateM ε (Observed σ P) α :=
  zoom Observed.inner (fun inner observed => { observed with inner }) act

def note (attempt : Attempt P) (observed : Observed σ P) : Observed σ P :=
  { observed with attempts := observed.attempts ++ [attempt] }

def attempting (start : P) (slot : Nat) (requestId : Option RequestId) (act : EStateM ε σ α) :
    EStateM ε (Observed σ P) α := fun observed =>
  match onInner act observed with
  | .ok value observed => .ok value (observed.note ⟨start, slot, requestId, true⟩)
  | .error fault observed => .error fault (observed.note ⟨start, slot, requestId, false⟩)

end Observed

namespace Executor

open Observed in
def observed (executor : Executor σ M P S V) : Executor (Observed σ P) M P S V :=
  { limits := executor.limits
    mesh := executor.mesh
    hosts := executor.hosts
    placement := executor.placement
    prefill := fun model request => onInner (executor.prefill model request)
    prefillMany := fun model request seed count =>
      onInner (executor.prefillMany model request seed count)
    generate := fun model state sampler => onInner (executor.generate model state sampler)
    insert := fun start state slot requestId => onInner (executor.insert start state slot requestId)
    tryInsert := fun start state slot requestId =>
      attempting start slot requestId (executor.tryInsert start state slot requestId)
    insertAll := fun start state slots => onInner (executor.insertAll start state slots)
    free := fun slot => onInner (executor.free slot)
    loadModel := onInner executor.loadModel
    initState := onInner executor.initState
    vocabularySource := onInner executor.vocabularySource
    buildVocabulary := fun source => onInner (executor.buildVocabulary source) }

structure MirroredPrefill (Related : σ → τ → Prop) (executor : Executor σ M P S V)
    (twin : Executor τ M P S V) : Prop where
  limits : executor.limits = twin.limits
  prefill : ∀ model request, Mirrors Related (executor.prefill model request) (twin.prefill model request)
  prefillMany : ∀ model request seed count,
    Mirrors Related (executor.prefillMany model request seed count) (twin.prefillMany model request seed count)

/-- The operations that serving needs give the same answers on both executors. -/
structure Mirrored (Related : σ → τ → Prop) (executor : Executor σ M P S V)
    (twin : Executor τ M P S V) : Prop extends MirroredPrefill Related executor twin where
  generate : ∀ model state sampler,
    Mirrors Related (executor.generate model state sampler) (twin.generate model state sampler)
  tryInsert : ∀ start state slot requestId,
    Mirrors Related (executor.tryInsert start state slot requestId) (twin.tryInsert start state slot requestId)
  free : ∀ slot, Mirrors Related (executor.free slot) (twin.free slot)
  initState : Mirrors Related executor.initState twin.initState

end Executor

namespace Observed

def Watches (state : σ) (observed : Observed σ P) : Prop := observed.inner = state

theorem onInner_success {act : EStateM ε σ α} {observed after : Observed σ P} {value : α}
    (ok : onInner act observed = .ok value after) :
    act observed.inner = .ok value after.inner := by
  obtain ⟨inner, done, rfl⟩ := zoom_success ok
  exact done

theorem onInner_mirrors (act : EStateM ε σ α) :
    Mirrors Watches act (onInner act : EStateM ε (Observed σ P) α) := by
  rintro state observed rfl
  unfold onInner zoom
  cases act observed.inner with
  | ok value inner => exact .ok value rfl
  | error fault inner => exact .error fault rfl

end Observed

namespace Executor

open Observed in
theorem observed_mirrored (executor : Executor σ M P S V) :
    Mirrored Watches executor executor.observed where
  limits := rfl
  prefill _ _ := onInner_mirrors _
  prefillMany _ _ _ _ := onInner_mirrors _
  generate _ _ _ := onInner_mirrors _
  tryInsert start state slot requestId := by
    intro inner observed watches
    have same := onInner_mirrors (executor.tryInsert start state slot requestId) inner observed watches
    unfold Executor.observed attempting
    dsimp only
    generalize executor.tryInsert start state slot requestId inner = ended at same
    generalize onInner (executor.tryInsert start state slot requestId) observed = watched at same
    cases same with
    | ok value related => exact .ok value related
    | error fault related => exact .error fault related
  free _ := onInner_mirrors _
  initState := onInner_mirrors _

variable {Related : σ → τ → Prop} {executor : Executor σ M P S V} {twin : Executor τ M P S V}

theorem MirroredPrefill.prefillPieces (mirrored : MirroredPrefill Related executor twin) (model : M)
    (request : PrefillRequest P) (tokens : Tensor) (carried : Option (Carried P)) (stops : List Nat) :
    Mirrors Related (executor.prefillPieces model request tokens carried stops)
      (twin.prefillPieces model request tokens carried stops) := by
  induction stops generalizing carried with
  | nil => exact mirrors_throw _
  | cons stop rest ih =>
    refine mirrors_bind (mirrors_answer _) fun lead => mirrors_bind (mirrored.prefill _ _) fun piece => ?_
    cases rest with
    | nil => exact mirrors_pure _
    | cons => exact ih _

theorem MirroredPrefill.prefillChunked (mirrored : MirroredPrefill Related executor twin) (model : M)
    (request : PrefillRequest P) :
    Mirrors Related (executor.prefillChunked model request) (twin.prefillChunked model request) := by
  unfold Executor.prefillChunked
  rw [mirrored.limits]
  dsimp only
  split
  · exact mirrored.prefill _ _
  · split
    · exact mirrors_bind (mirrors_throw _) fun _ => mirrors_bind (mirrors_answer _) fun _ =>
        mirrored.prefillPieces _ _ _ _ _
    · exact mirrors_bind (mirrors_answer _) fun _ => mirrored.prefillPieces _ _ _ _ _

end Executor

end SlotServe
