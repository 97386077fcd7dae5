import SlotServe.Proofs.Engine.PromptContext
import SlotServe.Proofs.Engine.Vacancy

/-! Calls on an executor that pass one decode state from hand to hand. A call that uses the state up
when it fails is followed by calls on a fresh one; the cache is never replaced. -/
namespace SlotServe

inductive EngineCall
  | insert (start : Prefilled) (slot : Nat) (requestId : Option RequestId)
  | tryInsert (start : Prefilled) (slot : Nat) (requestId : Option RequestId)
  | insertAll (start : Prefilled) (slots : List Nat)
  | generate (table : TransitionTable) (sampler : Option Sampler)
  | free (slot : Nat)

def beside {σ S α : Type} (state : S) (act : EStateM Fault σ α) : EStateM (Rejected S) σ S := fun cache =>
  match act cache with
  | .ok _ cache => .ok state cache
  | .error fault cache => .error ⟨fault, some state⟩ cache

section

variable {σ S α : Type} {Holds : σ → Prop}

theorem keeps_consuming {insert : EStateM Fault σ S} (kept : Keeps Holds insert) : Keeps Holds (consuming insert) := by
  intro state holds
  have after := kept state holds
  unfold consuming
  cases ended : insert state <;> rwa [ended] at after

theorem keeps_beside {act : EStateM Fault σ α} (kept : Keeps Holds act) (state : S) : Keeps Holds (beside state act) := by
  intro cache holds
  have after := kept cache holds
  unfold beside
  cases ended : act cache <;> rwa [ended] at after

theorem keeps_map {ε β : Type} {act : EStateM ε σ α} (kept : Keeps Holds act) (view : α → β) :
    Keeps Holds (view <$> act) := by
  intro state holds
  have after := kept state holds
  simp only [Functor.map, EStateM.map]
  cases ended : act state <;> rwa [ended] at after

theorem ends_consuming {Cause : Fault → Prop} {insert : EStateM Fault σ S} {engine : σ}
    (ends : Ends Holds Cause (insert engine)) :
    Ends Holds (fun rejected => Cause rejected.fault) (consuming insert engine) := by
  unfold consuming
  cases ended : insert engine <;> rwa [ended] at ends

theorem ends_beside {Cause : Fault → Prop} {act : EStateM Fault σ α} {engine : σ}
    (ends : Ends Holds Cause (act engine)) (state : S) :
    Ends Holds (fun rejected => Cause rejected.fault) (beside state act engine) := by
  unfold beside
  cases ended : act engine <;> rwa [ended] at ends

theorem ends_map {ε β : Type} {Cause : ε → Prop} {act : EStateM ε σ α} {state : σ}
    (ends : Ends Holds Cause (act state)) (view : α → β) : Ends Holds Cause ((view <$> act) state) := by
  simp only [Functor.map, EStateM.map]
  cases ended : act state <;> rwa [ended] at ends

theorem map_success {ε β : Type} {act : EStateM ε σ α} {view : α → β} {state after : σ} {shown : β}
    (ok : (view <$> act) state = .ok shown after) : ∃ value, act state = .ok value after ∧ view value = shown := by
  simp only [Functor.map, EStateM.map] at ok
  cases ended : act state with
  | ok value middle =>
    rw [ended] at ok
    cases ok
    exact ⟨value, rfl, rfl⟩
  | error fault middle =>
    rw [ended] at ok
    cases ok

theorem consuming_success {insert : EStateM Fault σ S} {state after : σ} {next : S}
    (ok : consuming insert state = .ok next after) : insert state = .ok next after := by
  unfold consuming at ok
  split at ok
  next ended =>
    cases ok
    exact ended
  next => cases ok

theorem consuming_returned {insert : EStateM Fault σ S} {state after : σ} {rejected : Rejected S}
    (failed : consuming insert state = .error rejected after) : rejected.returned = none := by
  unfold consuming at failed
  split at failed
  · cases failed
  · cases failed
    rfl

theorem beside_success {act : EStateM Fault σ α} {state next : S} {cache after : σ}
    (ok : beside state act cache = .ok next after) : next = state ∧ ∃ value, act cache = .ok value after := by
  unfold beside at ok
  split at ok
  next value _ ended =>
    cases ok
    exact ⟨rfl, value, ended⟩
  next => cases ok

theorem beside_returned {act : EStateM Fault σ α} {state : S} {cache after : σ} {rejected : Rejected S}
    (failed : beside state act cache = .error rejected after) :
    rejected.returned = some state ∧ after = left (act cache) := by
  unfold beside at failed
  cases ended : act cache <;> rw [ended] at failed <;> cases failed
  exact ⟨rfl, rfl⟩

end

namespace EngineCall

def starts : EngineCall → List Prefilled
  | .insert start _ _ | .tryInsert start _ _ | .insertAll start _ => [start]
  | .generate _ _ | .free _ => []

section

variable {V : Type} (executor : Executor SlotBlocks TransitionTable Prefilled DecodeState V)

def perform (state : DecodeState) : EngineCall → EStateM (Rejected DecodeState) SlotBlocks DecodeState
  | .insert start slot requestId => consuming (executor.insert start state slot requestId)
  | .tryInsert start slot requestId => executor.tryInsert start state slot requestId
  | .insertAll start slots => consuming (executor.insertAll start state slots)
  | .generate table sampler => consuming (Prod.fst <$> executor.generate table state sampler)
  | .free slot => beside state (executor.free slot)

end

end EngineCall

/-- What a call that succeeds did to the rows and the blocks. -/
theorem EngineCall.perform_success {settings : EngineSettings} {V : Type} {build : VocabularySource → Except Fault V}
    {call : EngineCall} {state next : DecodeState} {cache after : SlotBlocks}
    (ok : call.perform (settings.executor build) state cache = .ok next after) :
    match call with
    | .insert start slot requestId | .tryInsert start slot requestId =>
      settings.insertRows start state slot requestId cache = .ok next after
    | .insertAll start slots => settings.insertEach start state slots cache = .ok next after
    | .generate table sampler => ∃ buffer, settings.generate table state sampler cache = .ok (next, buffer) after
    | .free slot => next = state ∧ settings.free slot cache = .ok () after := by
  cases call with
  | insert start slot requestId => exact (EngineSettings.insert_inserted (consuming_success ok)).2
  | tryInsert start slot requestId => exact (EngineSettings.tryInsert_inserted ok).2
  | insertAll start slots =>
    obtain ⟨_, _, checked, inserted⟩ := bind_links (consuming_success ok)
    obtain ⟨-, rfl⟩ := answer_success checked
    exact inserted
  | generate table sampler =>
    obtain ⟨⟨_, buffer⟩, generated, rfl⟩ := map_success (consuming_success ok)
    exact ⟨buffer, generated⟩
  | free slot =>
    obtain ⟨same, _, freed⟩ := beside_success ok
    exact ⟨same, freed⟩

namespace EngineSettings

variable (settings : EngineSettings)

def freshState : DecodeState := .fresh settings.maxConcurrentDecodes settings.samplesPerSlot

def afterCall {V : Type} (build : VocabularySource → Except Fault V) (point : DecodeState × SlotBlocks)
    (call : EngineCall) : DecodeState × SlotBlocks :=
  match call.perform (settings.executor build) point.1 point.2 with
  | .ok next cache => (next, cache)
  | .error rejected cache => (rejected.returned.getD settings.freshState, cache)

def afterCalls {V : Type} (build : VocabularySource → Except Fault V) (calls : List EngineCall) :
    DecodeState × SlotBlocks :=
  calls.foldl (settings.afterCall build) (settings.freshState, settings.freshCache)

end EngineSettings

end SlotServe
