import SlotServe.Proofs.Engine.Lifecycle
import SlotServe.Proofs.Prompt.Buckets

/-! The course of a warm-up beside occupied slots. A bucket finds the cache as the warm-up found it, whatever became
of those before it, so that it is warmed or reported as if it were the only one. -/
namespace SlotServe

structure WarmUpStats.Sorts (stats : WarmUpStats) (buckets : List Nat) (fate : Nat → Except Fault Unit) : Prop where
  warmed : stats.warmed = buckets.filter fun bucket => (fate bucket).isOk
  failed : stats.failures.map (·.1) = buckets.filter fun bucket => !(fate bucket).isOk
  caused : ∀ failure ∈ stats.failures, fate failure.1 = .error failure.2

/-- The report of a warm-up: every accepted bucket once, among those warmed or among the errors. -/
structure WarmUpStats.Reports (stats : WarmUpStats) (plan : WarmUpPlan) (limit : Nat)
    (fate : Nat → Except Fault Unit) : Prop where
  ascending : stats.warmed.Pairwise (· < ·)
  warmed : ∀ bucket, bucket ∈ stats.warmed ↔
    (bucket ∈ plan.buckets ∧ 0 < bucket ∧ bucket ≤ limit) ∧ fate bucket = .ok ()
  failed : stats.failures.map (·.1) = (bucketsUpTo plan.buckets limit).filter fun bucket => bucket ∉ stats.warmed
  caused : ∀ failure ∈ stats.failures, fate failure.1 = .error failure.2

theorem WarmUpStats.Sorts.reports {stats : WarmUpStats} {plan : WarmUpPlan} {limit : Nat}
    {fate : Nat → Except Fault Unit} (sorts : stats.Sorts (bucketsUpTo plan.buckets limit) fate) :
    stats.Reports plan limit fate := by
  have passes (bucket : Nat) : (fate bucket).isOk = true ↔ fate bucket = .ok () := by
    cases fate bucket <;> simp [Except.isOk, Except.toBool]
  have warmed (bucket : Nat) : bucket ∈ stats.warmed ↔
      (bucket ∈ plan.buckets ∧ 0 < bucket ∧ bucket ≤ limit) ∧ fate bucket = .ok () := by
    rw [sorts.warmed, List.mem_filter, mem_bucketsUpTo, passes]
  refine ⟨?_, warmed, sorts.failed.trans (List.filter_congr fun bucket member => ?_), sorts.caused⟩
  · rw [sorts.warmed]
    exact (bucketsUpTo_ascending _ _).filter _
  · rw [Bool.eq_iff_iff, decide_eq_true_eq, warmed, ← passes, ← mem_bucketsUpTo, Bool.not_eq_true', Bool.eq_false_iff]
    simp [member]

namespace EngineSettings

variable {settings : EngineSettings} {cache after before : SlotBlocks} {table : TransitionTable} {plan : WarmUpPlan}
  {V : Type} {build : VocabularySource → Except Fault V} {stats : WarmUpStats}

def fate (settings : EngineSettings) (build : VocabularySource → Except Fault V) (table : TransitionTable)
    (plan : WarmUpPlan) (cache : SlotBlocks) (bucket : Nat) : Except Fault Unit :=
  outcomeOf ((settings.executor build).lifecycle table plan bucket cache)

theorem Restored.fate (restored : settings.Restored before cache) (sound : settings.Sound before) (bucket : Nat) :
    settings.fate build table plan cache bucket = settings.fate build table plan before bucket :=
  (lifecycle_twins table plan bucket cache before (restored.twins sound)).outcomes

section

variable (sound : settings.Sound before) (idle : ∀ row, before.isLive plan.slot row = false)

include sound idle

theorem restored_warmBuckets (buckets : List Nat) :
    settings.Restored before (left ((settings.executor build).warmBuckets table plan buckets before)) :=
  Executor.keeps_warmBuckets (restored_warmBucket sound idle table) buckets before ⟨sound, rfl⟩

theorem warmBuckets_sorts {buckets : List Nat} (restored : settings.Restored before cache)
    (ok : (settings.executor build).warmBuckets table plan buckets cache = .ok stats after) :
    stats.Sorts buckets (settings.fate build table plan before) := by
  induction buckets generalizing cache stats with
  | nil =>
    cases ok
    exact ⟨rfl, rfl, nofun⟩
  | cons bucket rest ih =>
    obtain ⟨others, following, ended⟩ := Executor.warmBuckets_links ok
    have sorted := ih (restored_warmBucket sound idle table bucket cache restored) following
    rw [outcomeOf_warmBucket restored.sound] at ended
    have turn : settings.fate build table plan cache bucket = settings.fate build table plan before bucket :=
      restored.fate sound bucket
    rcases ended with ⟨lived, warmed, failures⟩ | ⟨fault, failed, warmed, failures⟩
    · have passes : (settings.fate build table plan before bucket).isOk = true := by
        rw [← turn]
        exact congrArg Except.isOk lived
      refine ⟨?_, ?_, failures ▸ sorted.caused⟩
      · rw [warmed, sorted.warmed, List.filter_cons, if_pos passes]
      · rw [failures, sorted.failed, List.filter_cons, if_neg (by simp [passes])]
    · have failed : settings.fate build table plan before bucket = .error fault := turn.symm.trans failed
      have fails : (settings.fate build table plan before bucket).isOk = false := congrArg Except.isOk failed
      refine ⟨?_, ?_, fun failure member => ?_⟩
      · rw [warmed, sorted.warmed, List.filter_cons, if_neg (by simp [fails])]
      · rw [failures, List.map_cons, sorted.failed, List.filter_cons, if_pos (by simp [fails])]
      · rw [failures] at member
        rcases List.mem_cons.mp member with rfl | later
        · exact failed
        · exact sorted.caused failure later

/-- No bucket keeps the next one from its turn where tokens can be counted. -/
theorem warmBuckets_answers (word : settings.blockSize < Size.limit) {buckets : List Nat}
    (short : ∀ bucket ∈ buckets, Size.addressable bucket 4 = true ∧ bucket + 1 + plan.decodeSteps < Size.half)
    (restored : settings.Restored before cache) :
    ∃ stats after, (settings.executor build).warmBuckets table plan buckets cache = .ok stats after := by
  induction buckets generalizing cache with
  | nil => exact ⟨{}, cache, rfl⟩
  | cons bucket rest ih =>
    obtain ⟨addressable, counted⟩ := short bucket List.mem_cons_self
    have ends : Ends settings.Sound Fault.Proper ((settings.executor build).warmBucket table plan bucket cache) :=
      warmBucket_ends word restored.sound addressable counted
    have later : settings.Restored before (left ((settings.executor build).warmBucket table plan bucket cache)) :=
      restored_warmBucket sound idle table bucket cache restored
    obtain ⟨others, after, following⟩ := ih (fun other member => short other (List.mem_cons_of_mem _ member)) later
    have proper (cause : Defect) :
        outcomeOf ((settings.executor build).warmBucket table plan bucket cache) ≠ .error (.defect cause) := by
      intro defect
      obtain ⟨_, ended⟩ := outcomeOf_error.mp defect
      rw [ended] at ends
      exact ends cause rfl
    obtain ⟨stats, ok⟩ := Executor.warmBuckets_goes_on proper following
    exact ⟨stats, after, ok⟩

end

/-- A warm-up beside slots that may be occupied. Whichever buckets fail, and wherever, all rows own the blocks that
they owned before and the same blocks are free, and each accepted bucket meets at its turn with what it would have met
on the first cache. It is reported as warmed exactly when its prefill, insert and decode steps succeed there, and
else in one error, and the front keeps what was warmed and whether all was. The warm-up does answer as long as its
tokens can be counted. -/
theorem warmUp_course (settings : EngineSettings) (build : VocabularySource → Except Fault V) (table : TransitionTable)
    (plan : WarmUpPlan) (front : Front SlotBlocks)
    (reached : (settings.executor build).Reaches settings.freshCache front.inner)
    (spare : settings.maxConcurrentDecodes ≤ plan.slot ∨ ∀ row, front.inner.isLive plan.slot row = false)
    (planned : plan.buckets ≠ []) :
    let executor := settings.executor build
    let accepted := bucketsUpTo plan.buckets settings.maxPrefillLength
    (∀ stats after, executor.warmUp table plan front = .ok stats after →
      front.inner.SameHoldings after.inner ∧
        stats.Reports plan settings.maxPrefillLength (settings.fate build table plan front.inner) ∧
        after.buckets = some stats.warmed ∧ (after.warm = true ↔ stats.errors = [])) ∧
    (∀ earlier bucket later, accepted = earlier ++ bucket :: later →
      settings.fate build table plan (left (executor.warmBuckets table plan earlier front.inner)) bucket =
        settings.fate build table plan front.inner bucket) ∧
    (settings.blockSize < Size.limit →
      (∀ bucket ∈ accepted, Size.addressable bucket 4 = true ∧ bucket + 1 + plan.decodeSteps < Size.half) →
      ∃ stats after, executor.warmUp table plan front = .ok stats after) := by
  intro executor accepted
  have sound := sound_of_reaches reached
  have idle (row : Nat) : front.inner.isLive plan.slot row = false := by
    rcases spare with outside | idle
    · have absent : front.inner.slots[plan.slot]? = none := sound.shaped.absent outside
      simp [SlotBlocks.isLive, SlotBlocks.table?, absent]
    · exact idle row
  have needed : plan.isNeeded = true := by simpa [WarmUpPlan.isNeeded] using planned
  have start : settings.Restored front.inner front.inner := ⟨sound, rfl⟩
  refine ⟨fun stats after ok => ?_, fun earlier bucket later _ => ?_, fun word short => ?_⟩
  · unfold executor Executor.warmUp at ok
    rw [if_pos needed] at ok
    obtain ⟨told, _, walked, ok⟩ := bind_links ok
    obtain ⟨cache, warming, rfl⟩ := zoom_success walked
    cases ok
    have reports := (warmBuckets_sorts sound idle start warming).reports
    have restored : settings.Restored front.inner
        (left ((settings.executor build).warmBuckets table plan accepted front.inner)) :=
      restored_warmBuckets sound idle accepted
    rw [show (settings.executor build).warmBuckets table plan accepted front.inner = _ from warming] at restored
    refine ⟨sound.accounted.sameHoldings restored.sound.accounted restored.slots, reports, rfl, ?_⟩
    simp [WarmUpStats.isSuccess, WarmUpStats.errors]
  · exact (restored_warmBuckets sound idle earlier).fate sound bucket
  · obtain ⟨stats, cache, warming⟩ : ∃ stats cache,
        (settings.executor build).warmBuckets table plan accepted front.inner = .ok stats cache :=
      warmBuckets_answers sound idle word short start
    have walked : Front.onInner ((settings.executor build).warmBuckets table plan accepted) front =
        .ok stats { front with inner := cache } := by
      rw [Front.onInner, zoom, warming]
    unfold executor Executor.warmUp
    rw [if_pos needed]
    exact ⟨stats, _, bind_ok _ walked⟩

def lodging : EngineSettings :=
  { maxConcurrentDecodes := 2, maxPrefillLength := 4, vocabSize := 1, blockSize := 2, numBlocks := 3 }

def lodgingTable : TransitionTable := ⟨⟨[1, 1], .ofReals [0]⟩⟩

def lodgingCache : SlotBlocks :=
  left ((lodging.executor fun _ => (.ok () : Except Fault Unit)).insert ⟨[0], [0], [0], none⟩ lodging.freshState 1 none
    lodging.freshCache)

def lodgingPlan : WarmUpPlan := { buckets := [4, 2, 1, 2, 9], decodeSteps := 2 }

/-- The bucket of one token lives through its steps, that of two fails in the last one, and that of four gets no
blocks. The block of slot 1 stays where it is. -/
theorem warmUp_beside_lodger :
    (lodging.executor fun _ => (.ok () : Except Fault Unit)).Reaches lodging.freshCache lodgingCache ∧
      (∀ row, lodgingCache.isLive lodgingPlan.slot row = false) ∧ lodgingPlan.buckets ≠ [] ∧
      lodgingCache.isLive 1 0 = true ∧
      ∃ stats after, (lodging.executor fun _ => .ok ()).warmUp lodgingTable lodgingPlan (.cold lodgingCache) =
          .ok stats after ∧
        lodgingCache.SameHoldings after.inner ∧
        stats.Reports lodgingPlan 4 (lodging.fate (fun _ => .ok ()) lodgingTable lodgingPlan lodgingCache) ∧
        stats.warmed = [1] ∧ stats.failures.map (·.1) = [2, 4] ∧
        after.buckets = some stats.warmed ∧ (after.warm = true ↔ stats.errors = []) := by
  have reached : (lodging.executor fun _ => (.ok () : Except Fault Unit)).Reaches lodging.freshCache lodgingCache :=
    .insert .start _ _ _ _
  have idle (row : Nat) : lodgingCache.isLive lodgingPlan.slot row = false := by
    cases row <;> rfl
  obtain ⟨told, -, answers⟩ := warmUp_course lodging (fun _ => (.ok () : Except Fault Unit)) lodgingTable lodgingPlan
    (.cold lodgingCache) reached (.inr idle) (by decide)
  obtain ⟨stats, after, ok⟩ := answers (by decide) (by decide)
  obtain ⟨holdings, reports, known⟩ := told stats after ok
  have listed : (match (lodging.executor fun _ => (.ok () : Except Fault Unit)).warmUp lodgingTable lodgingPlan
      (.cold lodgingCache) with
      | .ok stats _ => decide (stats.warmed = [1] ∧ stats.failures.map (·.1) = [2, 4])
      | .error _ _ => false) = true := by decide +kernel
  rw [ok] at listed
  obtain ⟨warmed, failures⟩ := of_decide_eq_true listed
  exact ⟨reached, idle, by decide, rfl, stats, after, ok, holdings, reports, warmed, failures, known⟩

end EngineSettings

end SlotServe
