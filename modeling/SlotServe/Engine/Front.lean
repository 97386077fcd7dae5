import SlotServe.Engine.Executor
/-! The front of an executor. Every operation is passed through untouched; the front only keeps
whether warm-up has run and which prefill buckets it covered. -/
namespace SlotServe

structure Front (σ : Type) where
  warm : Bool
  /-- The buckets of the last warm-up. -/
  buckets : Option (List Nat)
  inner : σ

namespace Front

variable {σ ε α : Type}

def cold (inner : σ) : Front σ := ⟨false, none, inner⟩

def onInner (act : EStateM ε σ α) : EStateM ε (Front σ) α :=
  zoom Front.inner (fun inner front => { front with inner }) act

end Front

namespace Executor

variable {σ M P S V : Type}

open Front in
def front (executor : Executor σ M P S V) : Executor (Front σ) M P S V :=
  { limits := executor.limits
    mesh := executor.mesh
    hosts := executor.hosts
    placement := executor.placement
    prefill := fun model request => onInner (executor.prefill model request)
    prefillMany := fun model request seed count =>
      onInner (executor.prefillMany model request seed count)
    generate := fun model state sampler => onInner (executor.generate model state sampler)
    insert := fun start state slot requestId =>
      onInner (executor.insert start state slot requestId)
    tryInsert := fun start state slot requestId =>
      onInner (executor.tryInsert start state slot requestId)
    insertAll := fun start state slots => onInner (executor.insertAll start state slots)
    free := fun slot => onInner (executor.free slot)
    loadModel := onInner executor.loadModel
    initState := onInner executor.initState
    vocabularySource := onInner executor.vocabularySource
    buildVocabulary := fun source => onInner (executor.buildVocabulary source) }

end Executor

end SlotServe
