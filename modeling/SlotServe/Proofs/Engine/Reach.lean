import SlotServe.Proofs.Block.Frame
import SlotServe.Proofs.Engine.Generate
import SlotServe.Proofs.Engine.Insert

/-! The states that an executor can reach by any calls with any arguments, failing ones included. For
the executor over a transition table these are caches whose blocks are accounted for and whose slots
all have their rows. -/
namespace SlotServe

namespace Executor

variable {σ M P S V : Type}

inductive Reaches (executor : Executor σ M P S V) (first : σ) : σ → Prop
  | start : Reaches executor first first
  | prefill {engine} (reached : Reaches executor first engine) (model request) :
      Reaches executor first (left (executor.prefill model request engine))
  | prefillMany {engine} (reached : Reaches executor first engine) (model request seed count) :
      Reaches executor first (left (executor.prefillMany model request seed count engine))
  | generate {engine} (reached : Reaches executor first engine) (model state sampler) :
      Reaches executor first (left (executor.generate model state sampler engine))
  | insert {engine} (reached : Reaches executor first engine) (start state slot requestId) :
      Reaches executor first (left (executor.insert start state slot requestId engine))
  | tryInsert {engine} (reached : Reaches executor first engine) (start state slot requestId) :
      Reaches executor first (left (executor.tryInsert start state slot requestId engine))
  | insertAll {engine} (reached : Reaches executor first engine) (start state slots) :
      Reaches executor first (left (executor.insertAll start state slots engine))
  | free {engine} (reached : Reaches executor first engine) (slot) :
      Reaches executor first (left (executor.free slot engine))
  | loadModel {engine} (reached : Reaches executor first engine) :
      Reaches executor first (left (executor.loadModel engine))
  | initState {engine} (reached : Reaches executor first engine) :
      Reaches executor first (left (executor.initState engine))
  | vocabularySource {engine} (reached : Reaches executor first engine) :
      Reaches executor first (left (executor.vocabularySource engine))
  | buildVocabulary {engine} (reached : Reaches executor first engine) (source) :
      Reaches executor first (left (executor.buildVocabulary source engine))

structure Maintains (executor : Executor σ M P S V) (Holds : σ → Prop) : Prop where
  prefill : ∀ model request, Keeps Holds (executor.prefill model request)
  prefillMany : ∀ model request seed count, Keeps Holds (executor.prefillMany model request seed count)
  generate : ∀ model state sampler, Keeps Holds (executor.generate model state sampler)
  insert : ∀ start state slot requestId, Keeps Holds (executor.insert start state slot requestId)
  tryInsert : ∀ start state slot requestId, Keeps Holds (executor.tryInsert start state slot requestId)
  insertAll : ∀ start state slots, Keeps Holds (executor.insertAll start state slots)
  free : ∀ slot, Keeps Holds (executor.free slot)
  loadModel : Keeps Holds executor.loadModel
  initState : Keeps Holds executor.initState
  vocabularySource : Keeps Holds executor.vocabularySource
  buildVocabulary : ∀ source, Keeps Holds (executor.buildVocabulary source)

theorem Reaches.holds {executor : Executor σ M P S V} {Holds : σ → Prop} {first engine : σ}
    (reached : executor.Reaches first engine) (maintains : executor.Maintains Holds)
    (holds : Holds first) : Holds engine := by
  induction reached with
  | start => exact holds
  | prefill _ model request ih => exact maintains.prefill model request _ ih
  | prefillMany _ model request seed count ih => exact maintains.prefillMany model request seed count _ ih
  | generate _ model state sampler ih => exact maintains.generate model state sampler _ ih
  | insert _ start state slot requestId ih => exact maintains.insert start state slot requestId _ ih
  | tryInsert _ start state slot requestId ih => exact maintains.tryInsert start state slot requestId _ ih
  | insertAll _ start state slots ih => exact maintains.insertAll start state slots _ ih
  | free _ slot ih => exact maintains.free slot _ ih
  | loadModel _ ih => exact maintains.loadModel _ ih
  | initState _ ih => exact maintains.initState _ ih
  | vocabularySource _ ih => exact maintains.vocabularySource _ ih
  | buildVocabulary _ source ih => exact maintains.buildVocabulary source _ ih

end Executor

namespace EngineSettings

variable (settings : EngineSettings)

structure KeptAt (slot : Nat) (Holds : SlotBlocks → Prop) : Prop where
  reserve : ∀ row count, Keeps Holds (SlotBlocks.reserve slot row count)
  freeSlot : Keeps Holds (SlotBlocks.freeSlot slot)

theorem sameBut_keptAt (slot : Nat) (before : SlotBlocks) : KeptAt slot (SlotBlocks.SameBut slot before) :=
  ⟨fun row count => SlotBlocks.sameBut_reserve before slot row count, SlotBlocks.sameBut_freeSlot before slot⟩

namespace KeptAt

variable {slot : Nat} {Holds : SlotBlocks → Prop} (kept : KeptAt slot Holds)

include kept

theorem reserveSlot (count : Nat) : Keeps Holds (settings.reserveSlot slot count) := by
  intro cache holds
  have grown := SlotBlocks.reserveRows_keeps (fun row => kept.reserve row count) 0
    settings.samplesPerSlot cache holds
  unfold EngineSettings.reserveSlot
  split
  next ended => rwa [ended] at grown
  next ended => rwa [ended] at grown
  next between _ ended =>
    rw [ended] at grown
    have freed := kept.freeSlot between grown
    split
    next undone => rwa [undone] at freed
    next undone => rwa [undone] at freed

theorem insertRows (start : Prefilled) (state : DecodeState) (requestId : Option RequestId) :
    Keeps Holds (settings.insertRows start state slot requestId) := by
  have place : Keeps Holds (settings.placeRows start state slot requestId) :=
    keeps_bind (keeps_answer _) fun length =>
      keeps_bind (kept.reserveSlot settings length) fun _ =>
        keeps_bind (keeps_answer _) fun rows => keeps_pure _
  intro cache holds
  rw [insertRows_eq]
  split
  · split
    · exact holds
    · split
      · exact keeps_bind kept.freeSlot (fun _ => place) cache holds
      · exact place cache holds
  · exact holds

theorem tryInsertRows (start : Prefilled) (state : DecodeState) (requestId : Option RequestId) :
    Keeps Holds (settings.tryInsertRows start state slot requestId) := by
  intro cache holds
  have inserted := keeps_bind (keeps_answer (checkSlot settings.maxConcurrentDecodes slot))
    (fun _ => kept.insertRows settings start state requestId) cache holds
  unfold EngineSettings.tryInsertRows
  dsimp only
  split
  next ended => rwa [ended] at inserted
  next ended => rwa [ended] at inserted
  next ended => rwa [ended] at inserted

theorem free : Keeps Holds (settings.free slot) :=
  keeps_bind (keeps_answer _) fun _ => keeps_bind kept.freeSlot fun _ => keeps_pure _

end KeptAt

section

variable {Holds : SlotBlocks → Prop}

/-- Advancing rows changes the cache by growing these rows, one after the other. -/
theorem keeps_advance {places : List (Nat × Nat)}
    (grown : ∀ place ∈ places, Keeps Holds (SlotBlocks.reserve place.1 place.2 1)) (state : DecodeState)
    (tokens : List UInt32) (logProbs : List Float32) : Keeps Holds (advance state places tokens logProbs) := by
  induction places generalizing state tokens logProbs with
  | nil => exact keeps_pure state
  | cons place rest ih =>
    obtain ⟨slot, row⟩ := place
    have reserved := grown (slot, row) List.mem_cons_self
    have later := ih fun place member => grown place (List.mem_cons_of_mem _ member)
    match tokens, logProbs with
    | _ :: tokens, _ :: logProbs => exact keeps_bind reserved fun _ => later _ tokens logProbs
    | [], _ => exact keeps_bind reserved fun _ => keeps_throw _
    | _ :: _, [] => exact keeps_bind reserved fun _ => keeps_throw _

/-- A decode step changes the cache by growing the rows that are active and own blocks. -/
theorem left_generate {cache : SlotBlocks} {table : TransitionTable} {state : DecodeState} {sampler : Option Sampler}
    (grown : ∀ entry ∈ stepping (settle cache state), Keeps Holds (SlotBlocks.reserve entry.1 entry.2.1 1))
    (holds : Holds cache) : Holds (left (settings.generate table state sampler cache)) := by
  rw [generate_eq]
  refine keeps_bind ?_ (fun state => keeps_bind (keeps_answer _) fun buffer => keeps_pure _) cache holds
  unfold stepRows
  dsimp only
  split
  · exact keeps_pure _
  · refine keeps_bind (keeps_answer _) fun next => keeps_advance (fun place member => ?_) _ _ _
    obtain ⟨entry, steps, rfl⟩ := List.mem_map.mp member
    exact grown entry steps

end

def Kept (Holds : SlotBlocks → Prop) : Prop := ∀ slot, KeptAt slot Holds

namespace Kept

variable {Holds : SlotBlocks → Prop} (kept : Kept Holds)

include kept

theorem insertEach (start : Prefilled) (state : DecodeState) (slots : List Nat) :
    Keeps Holds (settings.insertEach start state slots) := by
  induction slots generalizing state with
  | nil => exact keeps_pure state
  | cons slot rest ih =>
    exact keeps_bind ((kept slot).insertRows settings start state none) fun next => ih next

theorem generate (table : TransitionTable) (state : DecodeState) (sampler : Option Sampler) :
    Keeps Holds (settings.generate table state sampler) :=
  fun _ holds => left_generate settings (fun entry _ => (kept entry.1).reserve entry.2.1 1) holds

/-- Growing single rows and freeing slots is all that the executor does to its cache. -/
theorem maintains {V : Type} (build : VocabularySource → Except Fault V) :
    (settings.executor build).Maintains Holds where
  prefill _ _ := keeps_answer _
  prefillMany _ _ _ _ := keeps_answer _
  generate := kept.generate settings
  insert start state slot requestId :=
    keeps_bind (keeps_answer _) fun _ => (kept slot).insertRows settings start state requestId
  tryInsert start state slot requestId := (kept slot).tryInsertRows settings start state requestId
  insertAll start state slots :=
    keeps_bind (keeps_answer _) fun _ => kept.insertEach settings start state slots
  free slot := (kept slot).free settings
  loadModel := keeps_answer _
  initState := keeps_pure _
  vocabularySource := keeps_pure _
  buildVocabulary _ := keeps_answer _

end Kept

variable {settings}

theorem size_of_valid (valid : settings.validate = .ok ())
    {size : String × Nat} (member : size ∈ settings.sizes) : 0 < size.2 := by
  unfold validate at valid
  split at valid
  next => cases valid
  next sound =>
    unfold brokenRule at sound
    split at sound
    next => cases sound
    next noZero =>
      have nonzero := List.find?_eq_none.mp noZero size member
      simp only [decide_eq_true_eq] at nonzero
      omega

/-- The blocks of the cache are accounted for, and every slot has its rows. -/
structure Sound (settings : EngineSettings) (cache : SlotBlocks) : Prop where
  accounted : cache.Accounted settings.blockSize settings.numBlocks
  shaped : cache.Shaped settings.maxConcurrentDecodes settings.samplesPerSlot

theorem sound_kept : Kept settings.Sound := by
  intro slot
  refine ⟨fun row count cache sound => ?_, fun cache sound => ?_⟩
  · exact ⟨SlotBlocks.reserve_keeps slot row count cache sound.accounted,
      SlotBlocks.shaped_reserve slot row count cache sound.shaped⟩
  · exact ⟨SlotBlocks.freeSlot_keeps slot cache sound.accounted,
      SlotBlocks.shaped_freeSlot slot cache sound.shaped⟩

theorem freshCache_sound : settings.Sound settings.freshCache :=
  ⟨SlotBlocks.fresh_accounted _ _ _ _, SlotBlocks.fresh_shaped _ _ _ _⟩

theorem sound_of_reaches {V : Type} {build : VocabularySource → Except Fault V} {cache : SlotBlocks}
    (reached : (settings.executor build).Reaches settings.freshCache cache) : settings.Sound cache :=
  reached.holds (sound_kept.maintains settings build) freshCache_sound

end EngineSettings

end SlotServe
