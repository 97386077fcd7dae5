import SlotServe.Proofs.Engine.Scratch
import SlotServe.Proofs.Engine.Twins
import SlotServe.Proofs.Prompt.Buckets
import SlotServe.Proofs.Serve.Buckets
import SlotServe.Proofs.Serve.Mirror
import SlotServe.Proofs.Serve.Release

/-! A run after a warm-up. Warm-up leaves other blocks on top of the pool and other buckets to pad
prompts to, and neither can be told from what a run answers. -/
namespace SlotServe

variable {settings : EngineSettings} {V : Type} {build : VocabularySource → Except Fault V}

namespace EngineSettings

theorem Primed.buckets {front : Front SlotBlocks} (primed : settings.Primed front) :
    ∀ bucket ∈ Scheduler.bucketsFor front.buckets settings.limits, Size.addressable bucket 4 = true := by
  have default : ∀ bucket ∈ defaultBuckets, Size.addressable bucket 4 = true := by decide
  unfold Scheduler.bucketsFor
  split
  next known => exact primed.addressable _ known
  next => exact fun bucket member => default bucket (mem_bucketsUpTo.mp member).1

theorem Unused.twins {cache twin : SlotBlocks} (unused : settings.Unused cache) (other : settings.Unused twin) :
    settings.Twins cache twin := by
  obtain ⟨slots, free⟩ := unused.sound.released unused.idle
  obtain ⟨otherSlots, otherFree⟩ := other.sound.released other.idle
  exact ⟨unused.sound, other.sound, congrArg _ (slots.trans otherSlots.symm), free.trans otherFree.symm⟩

end EngineSettings

def Front.scheduler (settings : EngineSettings) (build : VocabularySource → Except Fault V) (front : Front SlotBlocks)
    (model : TransitionTable) (padId : UInt32) (seed : UInt64) :
    Scheduler (Front SlotBlocks) TransitionTable Prefilled DecodeState V :=
  { executor := (settings.executor build).front, model,
    buckets := Scheduler.bucketsFor front.buckets settings.limits, padId, seed }

def Front.Twins (settings : EngineSettings) (front twin : Front SlotBlocks) : Prop :=
  settings.Twins front.inner twin.inner

theorem Front.onInner_twins {ε α : Type} {act : EStateM ε SlotBlocks α} (same : Mirrors settings.Twins act act) :
    Mirrors (Front.Twins settings) (Front.onInner act) (Front.onInner act) := by
  have parts (front twin : Front SlotBlocks) (twins : Front.Twins settings front twin) :
      settings.Twins front.inner twin.inner := twins
  have puts (front twin : Front SlotBlocks) (cache other : SlotBlocks) (_ : Front.Twins settings front twin)
      (twins : settings.Twins cache other) :
      Front.Twins settings { front with inner := cache } { twin with inner := other } := twins
  exact mirrors_zoom parts puts same

theorem Front.scheduler_mirrored (build : VocabularySource → Except Fault V) {front other : Front SlotBlocks}
    (primed : settings.Primed front) (otherPrimed : settings.Primed other) (model : TransitionTable) (padId : UInt32)
    (base : UInt64) :
    (front.scheduler settings build model padId base).Mirrored (Front.Twins settings)
      (other.scheduler settings build model padId base) where
  limits := rfl
  seed := rfl
  prefill request seed := by
    have prefills := Executor.prefillsBy_front settings build
    let scheduler := other.scheduler settings build model padId base
    have mirrored : scheduler.executor.MirroredPrefill (Front.Twins settings) scheduler.executor :=
      prefills.mirrored prefills (Front.Twins settings)
    have same := Scheduler.prefill_mirrors mirrored request seed
    -- The two schedulers pad to different buckets, and prefill reads the prompt alone.
    have padded : (front.scheduler settings build model padId base).prefill request seed =
        scheduler.prefill request seed :=
      Scheduler.prefill_buckets prefills primed.buckets otherPrimed.buckets request seed
    rw [padded]
    exact same
  generate state := Front.onInner_twins (EngineSettings.generate_twins model state none)
  tryInsert start state slot requestId :=
    Front.onInner_twins (EngineSettings.tryInsertRows_twins start state slot requestId)
  free slot := Front.onInner_twins (EngineSettings.free_twins slot)
  initState := Front.onInner_twins (mirrors_pure _)

/-- Whatever a warm-up did and however it ended, a run after it ends as a run without it: with the same
fault or the same report. -/
theorem run_after_warmUp (settings : EngineSettings) (build : VocabularySource → Except Fault V)
    (warming model : TransitionTable) (plan : WarmUpPlan) (padId : UInt32) (seed : UInt64)
    (requests : List Request) (stop : Nat → Bool) :
    let cold := Front.cold settings.freshCache
    let warmed := left ((settings.executor build).warmUp warming plan cold)
    SameEnd (Front.Twins settings)
      ((warmed.scheduler settings build model padId seed).run requests stop warmed)
      ((cold.scheduler settings build model padId seed).run requests stop cold) := by
  intro cold warmed
  have coldPrimed : settings.Primed cold := EngineSettings.cold_primed
  have primed : settings.Primed warmed := EngineSettings.primed_warmUp warming plan cold coldPrimed
  have mirrored := Front.scheduler_mirrored build primed coldPrimed model padId seed
  exact Scheduler.run_mirrors mirrored requests stop warmed cold (primed.unused.twins coldPrimed.unused)

end SlotServe
