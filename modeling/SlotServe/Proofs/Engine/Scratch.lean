import SlotServe.Engine.WarmUp
import SlotServe.Proofs.Engine.Levels
import SlotServe.Proofs.Prompt.Buckets

/-! Warm-up touches the scratch slot alone and frees it whatever happens, so that a cache on which no
slot was in use comes out with no slot in use. Only buckets that can be addressed count as warmed. -/
namespace SlotServe

def WarmUpPlan.dummy {P : Type} (plan : WarmUpPlan) (bucket : Nat) : PrefillRequest P :=
  { padded := .ofTokens (List.replicate bucket plan.padId), trueLength := bucket }

namespace Executor

variable {σ M P S V : Type} (executor : Executor σ M P S V) (model : M) (plan : WarmUpPlan)

def live (start : P) (state : S) : EStateM Fault σ Unit := do
  let state ← executor.insert start state plan.slot none
  let _ ← executor.generateTimes model plan.decodeSteps state

def tidying (slot : Nat) (act : EStateM Fault σ Unit) : EStateM Fault σ Unit := do
  let lived ← attempt act
  executor.free slot
  answer lived

variable {executor model plan}

theorem keeps_tidying {Holds Within : σ → Prop} {slot : Nat} {act : EStateM Fault σ Unit}
    (enters : ∀ engine, Holds engine → Within engine) (lives : Keeps Within act)
    (freed : ∀ engine, Within engine → Holds (left (executor.free slot engine))) :
    Keeps Holds (executor.tidying slot act) := by
  intro engine holds
  unfold tidying
  rw [bind_ok _ (attempt_eq act engine)]
  exact left_bind (freed _ (lives engine (enters engine holds))) fun _ => keeps_answer _

/-- A bucket that answers is warmed, one that fails is reported, and the others are tried after it. -/
theorem warmBuckets_links {bucket : Nat} {rest : List Nat} {stats : WarmUpStats} {engine after : σ}
    (ok : executor.warmBuckets model plan (bucket :: rest) engine = .ok stats after) :
    ∃ others, executor.warmBuckets model plan rest (left (executor.warmBucket model plan bucket engine)) =
        .ok others after ∧
      ((outcomeOf (executor.warmBucket model plan bucket engine) = .ok () ∧
          stats.warmed = bucket :: others.warmed ∧ stats.failures = others.failures) ∨
        ∃ fault, outcomeOf (executor.warmBucket model plan bucket engine) = .error fault ∧
          stats.warmed = others.warmed ∧ stats.failures = (bucket, fault) :: others.failures) := by
  unfold warmBuckets at ok
  rw [bind_ok _ (attempt_eq ..)] at ok
  match told : outcomeOf (executor.warmBucket model plan bucket engine), ok with
  | .ok (), ok =>
    obtain ⟨others, _, following, done⟩ := bind_links ok
    cases done
    exact ⟨others, following, .inl ⟨rfl, rfl, rfl⟩⟩
  | .error fault, ok =>
    cases fault with
    | defect cause => cases ok
    | _ =>
      obtain ⟨others, _, following, done⟩ := bind_links ok
      cases done
      exact ⟨others, following, .inr ⟨_, rfl, rfl, rfl⟩⟩

theorem warmBuckets_goes_on {bucket : Nat} {rest : List Nat} {others : WarmUpStats} {engine after : σ}
    (proper : ∀ cause, outcomeOf (executor.warmBucket model plan bucket engine) ≠ .error (.defect cause))
    (following : executor.warmBuckets model plan rest (left (executor.warmBucket model plan bucket engine)) =
      .ok others after) :
    ∃ stats, executor.warmBuckets model plan (bucket :: rest) engine = .ok stats after := by
  unfold warmBuckets
  rw [bind_ok _ (attempt_eq ..)]
  match outcomeOf (executor.warmBucket model plan bucket engine), proper with
  | .ok (), _ =>
    dsimp only
    rw [bind_ok _ following]
    exact ⟨_, rfl⟩
  | .error fault, proper =>
    cases fault with
    | defect cause => exact absurd rfl (proper cause)
    | _ =>
      dsimp only
      rw [bind_ok _ following]
      exact ⟨_, rfl⟩

theorem keeps_warmBuckets {Holds : σ → Prop} (kept : ∀ bucket, Keeps Holds (executor.warmBucket model plan bucket))
    (buckets : List Nat) : Keeps Holds (executor.warmBuckets model plan buckets) := by
  induction buckets with
  | nil => exact keeps_pure _
  | cons bucket rest ih =>
    refine keeps_bind (keeps_attempt (kept bucket)) fun lived => ?_
    match lived with
    | .ok () => exact keeps_bind ih fun _ => keeps_pure _
    | .error fault => cases fault <;> first | exact keeps_throw _ | exact keeps_bind ih fun _ => keeps_pure _

end Executor

namespace EngineSettings

variable {settings : EngineSettings} {cache : SlotBlocks} {slot : Nat} {V : Type}
  {build : VocabularySource → Except Fault V}

structure Solo (settings : EngineSettings) (slot : Nat) (cache : SlotBlocks) : Prop where
  sound : settings.Sound cache
  idle : ∀ other row, other ≠ slot → cache.isLive other row = false

structure Unused (settings : EngineSettings) (cache : SlotBlocks) : Prop where
  sound : settings.Sound cache
  idle : ∀ slot row, cache.isLive slot row = false

theorem freshCache_unused : settings.Unused settings.freshCache :=
  ⟨freshCache_sound, fun _ _ => SlotBlocks.isLive_fresh ..⟩

theorem Unused.solo (unused : settings.Unused cache) (slot : Nat) : settings.Solo slot cache :=
  ⟨unused.sound, fun other row _ => unused.idle other row⟩

theorem solo_keptAt (slot : Nat) : KeptAt slot (settings.Solo slot) := by
  constructor
  · intro row count cache solo
    have sameBut := SlotBlocks.sameBut_reserve cache slot row count cache rfl
    refine ⟨(sound_kept slot).reserve row count cache solo.sound, fun other row different => ?_⟩
    rw [sameBut.isLive different]
    exact solo.idle other row different
  · intro cache solo
    have sameBut := SlotBlocks.sameBut_freeSlot cache slot cache rfl
    refine ⟨(sound_kept slot).freeSlot cache solo.sound, fun other row different => ?_⟩
    rw [sameBut.isLive different]
    exact solo.idle other row different

theorem solo_generate (table : TransitionTable) (state : DecodeState) (sampler : Option Sampler) :
    Keeps (settings.Solo slot) (settings.generate table state sampler) := by
  intro cache solo
  refine ⟨sound_kept.generate settings table state sampler cache solo.sound, fun other row different => ?_⟩
  rw [generate_sameLive table state sampler cache]
  exact solo.idle other row different

theorem solo_generateTimes (table : TransitionTable) (steps : Nat) (state : DecodeState) :
    Keeps (settings.Solo slot) ((settings.executor build).generateTimes table steps state) := by
  induction steps generalizing state with
  | zero => exact keeps_pure state
  | succ steps ih => exact keeps_bind (solo_generate table state none) fun next => ih next.1

theorem Solo.freed (solo : settings.Solo slot cache) : settings.Unused (left (settings.free slot cache)) := by
  obtain ⟨emptied, others⟩ := free_vacates solo.sound slot
  refine ⟨(sound_kept slot).free settings cache solo.sound, fun other row => ?_⟩
  by_cases here : other = slot
  · rw [here]
    exact emptied row
  · rw [others other row here]
    exact solo.idle other row here

/-- To warm a bucket is to live through its prompt, and to free the scratch slot in the end. -/
theorem warmBucket_eq (table : TransitionTable) (plan : WarmUpPlan) (bucket : Nat) :
    (settings.executor build).warmBucket table plan bucket = (do
      answer (checkLength bucket)
      let (start, _) ← answer (settings.prefill table (plan.dummy bucket))
      (settings.executor build).tidying plan.slot
        ((settings.executor build).live table plan start settings.freshState)) := rfl

theorem unused_warmBucket (table : TransitionTable) (plan : WarmUpPlan) (bucket : Nat) :
    Keeps settings.Unused ((settings.executor build).warmBucket table plan bucket) := by
  have life (start : Prefilled) (state : DecodeState) :
      Keeps (settings.Solo plan.slot) ((settings.executor build).live table plan start state) :=
    keeps_bind (keeps_bind (keeps_answer _) fun _ => (solo_keptAt plan.slot).insertRows settings start state none)
      fun state => keeps_bind (solo_generateTimes table plan.decodeSteps state) fun _ => keeps_pure _
  rw [warmBucket_eq]
  exact keeps_bind (keeps_answer _) fun _ => keeps_bind (keeps_answer _) fun prefilled =>
    Executor.keeps_tidying (fun _ unused => unused.solo plan.slot) (life prefilled.1 _) fun _ solo => solo.freed

theorem warmBuckets_addressable {table : TransitionTable} {plan : WarmUpPlan} {buckets : List Nat}
    {stats : WarmUpStats} {after : SlotBlocks}
    (ok : (settings.executor build).warmBuckets table plan buckets cache = .ok stats after) :
    ∀ bucket ∈ stats.warmed, Size.addressable bucket 4 = true := by
  induction buckets generalizing cache stats after with
  | nil =>
    cases ok
    nofun
  | cons bucket rest ih =>
    obtain ⟨others, following, ⟨lived, warmed, -⟩ | ⟨-, -, warmed, -⟩⟩ := Executor.warmBuckets_links ok
    · rw [warmed]
      obtain ⟨_, ended⟩ := outcomeOf_ok.mp lived
      obtain ⟨_, _, checking, -⟩ := bind_links ended
      obtain ⟨checked, -⟩ := answer_success checking
      intro other member
      rcases List.mem_cons.mp member with rfl | later
      · exact checkLength_ok.mp checked
      · exact ih following other later
    · rw [warmed]
      exact ih following

structure Primed (settings : EngineSettings) (front : Front SlotBlocks) : Prop where
  unused : settings.Unused front.inner
  addressable : ∀ buckets ∈ front.buckets, ∀ bucket ∈ buckets, Size.addressable bucket 4 = true

theorem cold_primed : settings.Primed (.cold settings.freshCache) :=
  ⟨freshCache_unused, nofun⟩

theorem primed_warmUp (table : TransitionTable) (plan : WarmUpPlan) :
    Keeps settings.Primed ((settings.executor build).warmUp table plan) := by
  intro front primed
  unfold Executor.warmUp
  split
  next =>
    let act := (settings.executor build).warmBuckets table plan (bucketsUpTo plan.buckets settings.maxPrefillLength)
    have unused : settings.Unused (left (act front.inner)) := Executor.keeps_warmBuckets (unused_warmBucket table plan) _ front.inner primed.unused
    change settings.Primed (left ((Front.onInner act >>= fun stats => _) front))
    cases ended : act front.inner with
    | ok stats after =>
      rw [ended] at unused
      have walked : Front.onInner act front = .ok stats { front with inner := after } := by
        rw [Front.onInner, zoom, ended]
      rw [bind_ok _ walked]
      refine ⟨unused, fun buckets known => ?_⟩
      cases known
      exact warmBuckets_addressable ended
    | error fault after =>
      rw [ended] at unused
      have stuck : Front.onInner act front = .error fault { front with inner := after } := by
        rw [Front.onInner, zoom, ended]
      rw [bind_error _ stuck]
      exact ⟨unused, primed.addressable⟩
  next => exact primed

end EngineSettings

end SlotServe
