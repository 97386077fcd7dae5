import SlotServe.Proofs.Engine.Observed

/-! An executor that notes down its prefill calls. Noting changes nothing, so a recorded executor and the
executor itself give the same answers. -/
namespace SlotServe

variable {σ ε α M P S V : Type}

inductive PrefillCall (P : Type)
  | picking (request : PrefillRequest P)
  | drawing (request : PrefillRequest P) (seed : Option UInt64) (count : Nat)

namespace PrefillCall

def request : PrefillCall P → PrefillRequest P
  | picking request => request
  | drawing request .. => request

def seed? : PrefillCall P → Option UInt64
  | picking _ => none
  | drawing _ seed _ => seed

end PrefillCall

structure Recorded (σ P : Type) where
  calls : List (PrefillCall P)
  inner : σ

namespace Recorded

def onInner (act : EStateM ε σ α) : EStateM ε (Recorded σ P) α :=
  zoom Recorded.inner (fun inner recorded => { recorded with inner }) act

def calling (call : PrefillCall P) (act : EStateM ε σ α) : EStateM ε (Recorded σ P) α := do
  modify fun recorded => { recorded with calls := recorded.calls ++ [call] }
  onInner act

def Watches (state : σ) (recorded : Recorded σ P) : Prop := recorded.inner = state

theorem onInner_mirrors (act : EStateM ε σ α) :
    Mirrors Watches act (onInner act : EStateM ε (Recorded σ P) α) := by
  rintro state recorded rfl
  unfold onInner zoom
  cases act recorded.inner with
  | ok value inner => exact .ok value rfl
  | error fault inner => exact .error fault rfl

theorem calling_mirrors (call : PrefillCall P) (act : EStateM ε σ α) :
    Mirrors Watches act (calling call act) :=
  fun state recorded watches => onInner_mirrors act state { recorded with calls := recorded.calls ++ [call] } watches

theorem calling_ok {call : PrefillCall P} {act : EStateM ε σ α} {state after : σ} {value : α}
    (ok : act state = .ok value after) (noted : List (PrefillCall P)) :
    calling call act ⟨noted, state⟩ = .ok value ⟨noted ++ [call], after⟩ := by
  have inner : onInner act ⟨noted ++ [call], state⟩ = .ok value ⟨noted ++ [call], after⟩ := by
    simp only [onInner, zoom, ok]
  exact inner

theorem calling_error {call : PrefillCall P} {act : EStateM ε σ α} {state after : σ} {fault : ε}
    (failed : act state = .error fault after) (noted : List (PrefillCall P)) :
    calling call act ⟨noted, state⟩ = .error fault ⟨noted ++ [call], after⟩ := by
  have inner : onInner act ⟨noted ++ [call], state⟩ = .error fault ⟨noted ++ [call], after⟩ := by
    simp only [onInner, zoom, failed]
  exact inner

theorem onInner_calls (act : EStateM ε σ α) (recorded : Recorded σ P) :
    (left (onInner act recorded)).calls = recorded.calls := by
  rw [onInner, left_zoom]

theorem calling_calls (call : PrefillCall P) (act : EStateM ε σ α) (recorded : Recorded σ P) :
    (left (calling call act recorded)).calls = recorded.calls ++ [call] :=
  onInner_calls act { recorded with calls := recorded.calls ++ [call] }

end Recorded

namespace Executor

open Recorded in
def recorded (executor : Executor σ M P S V) : Executor (Recorded σ P) M P S V :=
  { limits := executor.limits
    mesh := executor.mesh
    hosts := executor.hosts
    placement := executor.placement
    prefill := fun model request => calling (.picking request) (executor.prefill model request)
    prefillMany := fun model request seed count =>
      calling (.drawing request seed count) (executor.prefillMany model request seed count)
    generate := fun model state sampler => onInner (executor.generate model state sampler)
    insert := fun start state slot requestId => onInner (executor.insert start state slot requestId)
    tryInsert := fun start state slot requestId => onInner (executor.tryInsert start state slot requestId)
    insertAll := fun start state slots => onInner (executor.insertAll start state slots)
    free := fun slot => onInner (executor.free slot)
    loadModel := onInner executor.loadModel
    initState := onInner executor.initState
    vocabularySource := onInner executor.vocabularySource
    buildVocabulary := fun source => onInner (executor.buildVocabulary source) }

open Recorded in
theorem recorded_mirrored (executor : Executor σ M P S V) : Mirrored Watches executor executor.recorded where
  limits := rfl
  prefill _ _ := calling_mirrors _ _
  prefillMany _ _ _ _ := calling_mirrors _ _
  generate _ _ _ := onInner_mirrors _
  tryInsert _ _ _ _ := onInner_mirrors _
  free _ := onInner_mirrors _
  initState := onInner_mirrors _

end Executor

end SlotServe
