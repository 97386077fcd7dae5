import SlotServe.Proofs.Engine.Regular
import SlotServe.Proofs.Engine.Scratch
import SlotServe.Proofs.Engine.Twins

/-! The life of a dummy prompt in the scratch slot. Its decode state is a fresh one, so that no other slot has an
active row and a decode step grows rows of the scratch slot alone, wherever it fails. How a life ends is told by
the tables of the slots, and not by which blocks are free. -/
namespace SlotServe

def DecodeState.Confined (slot : Nat) (state : DecodeState) : Prop :=
  ∀ other row entry, other ≠ slot → state.row? other row = some entry → entry.active = false

/-- The life of the dummy prompt of one bucket: prefill, insert and all decode steps. -/
def Executor.lifecycle {σ M P S V : Type} (executor : Executor σ M P S V) (model : M) (plan : WarmUpPlan)
    (bucket : Nat) : EStateM Fault σ Unit := do
  answer (checkLength bucket)
  let (start, _) ← executor.prefill model (plan.dummy bucket)
  let state ← executor.initState
  executor.live model plan start state

namespace EngineSettings

variable {settings : EngineSettings} {cache after before : SlotBlocks} {slot : Nat} {state next : DecodeState}
  {start : Prefilled} {requestId : Option RequestId} {table : TransitionTable} {sampler : Option Sampler}
  {buffer : ResultBuffer} {plan : WarmUpPlan} {Holds : SlotBlocks → Prop} {V : Type}
  {build : VocabularySource → Except Fault V}

theorem lifecycle_eq (bucket : Nat) :
    (settings.executor build).lifecycle table plan bucket = (do
      answer (checkLength bucket)
      let (start, _) ← answer (settings.prefill table (plan.dummy bucket))
      (settings.executor build).live table plan start settings.freshState) := rfl

theorem freshState_confined (settings : EngineSettings) (slot : Nat) : settings.freshState.Confined slot := by
  intro other row entry _ found
  rw [DecodeState.row?_fresh found]

theorem insertRows_confined (confined : state.Confined slot)
    (ok : settings.insertRows start state slot requestId cache = .ok next after) : next.Confined slot := by
  obtain ⟨-, ⟨rows, -, rfl⟩, -⟩ := insertRows_success ok
  intro other row entry different found
  have same : (state.setSlot slot rows).row? other row = state.row? other row := by
    unfold DecodeState.row? DecodeState.setSlot
    rw [List.getElem?_set_ne different.symm]
  exact confined other row entry different (same.symm.trans found)

theorem stepping_confined (confined : state.Confined slot) {entry : Nat × Nat × UInt32}
    (steps : entry ∈ stepping (settle cache state)) : entry.1 = slot := by
  obtain ⟨old, settled, active, -⟩ := mem_stepping.mp steps
  by_contra different
  have idle := confined _ _ old different (settle_active settled active).1
  rw [active] at idle
  cases idle

theorem generate_confined (confined : state.Confined slot)
    (ok : settings.generate table state sampler cache = .ok (next, buffer) after) : next.Confined slot := by
  intro other row entry different found
  have outside : (other, row) ∉ (stepping (settle cache state)).map placeOf := by
    intro member
    obtain ⟨stepped, steps, same⟩ := List.mem_map.mp member
    exact different ((congrArg Prod.fst same).symm.trans (stepping_confined confined steps))
  rw [((stepRows_links (generate_links ok).1).1 other row outside).1, row?_settle] at found
  obtain ⟨old, present, rfl⟩ := Option.map_eq_some_iff.mp found
  split
  · rfl
  · exact confined other row old different present

/-- A decode step counts one more token for a row at most. -/
theorem generate_counts {row : Nat} {counts : BlockTable}
    (ok : settings.generate table state sampler cache = .ok (next, buffer) after)
    (found : after.table? slot row = some counts) :
    ∃ old, cache.table? slot row = some old ∧ counts.numTokens ≤ old.numTokens + 1 := by
  have stepped := (generate_links ok).1
  by_cases steps : (slot, row) ∈ (stepping (settle cache state)).map placeOf
  · obtain ⟨entry, member, same⟩ := List.mem_map.mp steps
    cases same
    obtain ⟨_, -, -, -, old, granted, present, grown⟩ := stepRows_stepped stepped entry member
    obtain rfl := Option.some.inj (grown.symm.trans found)
    exact ⟨old, present, Nat.le_refl _⟩
  · rw [((stepRows_links stepped).1 slot row steps).2] at found
    exact ⟨counts, found, Nat.le_succ _⟩

namespace KeptAt

theorem and {More : SlotBlocks → Prop} (kept : KeptAt slot Holds) (other : KeptAt slot More) :
    KeptAt slot fun cache => Holds cache ∧ More cache :=
  ⟨fun row count cache holds => ⟨kept.reserve row count cache holds.1, other.reserve row count cache holds.2⟩,
    fun cache holds => ⟨kept.freeSlot cache holds.1, other.freeSlot cache holds.2⟩⟩

/-- The rows that step are rows of the slot, also where the step fails after some of them. -/
theorem generateTimes (kept : KeptAt slot Holds) (confined : state.Confined slot) (steps : Nat) :
    Keeps Holds ((settings.executor build).generateTimes table steps state) := by
  induction steps generalizing state with
  | zero => exact keeps_pure state
  | succ steps ih =>
    intro cache holds
    have grown : Holds (left (settings.generate table state none cache)) := by
      refine left_generate settings (fun entry steps => ?_) holds
      rw [stepping_confined confined steps]
      exact kept.reserve entry.2.1 1
    exact left_bind_ok grown fun _ between generated holds => ih (generate_confined confined generated) between holds

theorem live (kept : KeptAt plan.slot Holds) (confined : state.Confined plan.slot) (start : Prefilled) :
    Keeps Holds ((settings.executor build).live table plan start state) := by
  intro cache holds
  have inserts : Keeps Holds ((settings.executor build).insert start state plan.slot none) :=
    keeps_bind (keeps_answer _) fun _ => kept.insertRows settings start state none
  refine left_bind_ok (inserts cache holds) fun next between inserted holds => ?_
  have confined := insertRows_confined confined (insert_inserted inserted).2
  exact keeps_bind (kept.generateTimes confined _) (fun _ => keeps_pure _) between holds

end KeptAt

/-- The cache is sound, and its rows own the blocks that they owned before. -/
structure Restored (settings : EngineSettings) (before after : SlotBlocks) : Prop where
  sound : settings.Sound after
  slots : after.slots = before.slots

theorem restored_freed (sound : settings.Sound before) (idle : ∀ row, before.isLive slot row = false)
    (soundLater : settings.Sound cache) (sameBut : SlotBlocks.SameBut slot before cache) :
    settings.Restored before (left (settings.free slot cache)) := by
  refine ⟨(sound_kept slot).free settings cache soundLater, ?_⟩
  calc (left (settings.free slot cache)).slots
    _ = cache.slots.modify slot (·.map BlockTable.cleared) := slots_free soundLater slot
    _ = before.slots.modify slot (·.map BlockTable.cleared) := sameBut
    _ = before.slots := sound.accounted.modify_cleared idle

/-- A bucket that fails leaves as little behind as one that is warmed. -/
theorem restored_warmBucket (sound : settings.Sound before) (idle : ∀ row, before.isLive plan.slot row = false)
    (table : TransitionTable) (bucket : Nat) :
    Keeps (settings.Restored before) ((settings.executor build).warmBucket table plan bucket) := by
  have kept : KeptAt plan.slot fun cache => settings.Sound cache ∧ SlotBlocks.SameBut plan.slot before cache :=
    (sound_kept plan.slot).and (sameBut_keptAt plan.slot before)
  have enters (cache : SlotBlocks) (restored : settings.Restored before cache) :
      settings.Sound cache ∧ SlotBlocks.SameBut plan.slot before cache :=
    ⟨restored.sound, congrArg _ restored.slots⟩
  rw [warmBucket_eq]
  exact keeps_bind (keeps_answer _) fun _ => keeps_bind (keeps_answer _) fun prefilled =>
    Executor.keeps_tidying enters (kept.live (freshState_confined settings _) prefilled.1)
      fun _ lived => restored_freed sound idle lived.1 lived.2

/-- Freeing the slot does not change how a computation ends, unless there is no such slot. -/
theorem outcomeOf_tidying (sound : settings.Sound cache) {act : EStateM Fault SlotBlocks Unit}
    (kept : Keeps settings.Sound act)
    (refused : settings.maxConcurrentDecodes ≤ slot →
      outcomeOf (act cache) = .error (.slotOutOfRange slot settings.maxConcurrentDecodes)) :
    outcomeOf ((settings.executor build).tidying slot act cache) = outcomeOf (act cache) := by
  unfold Executor.tidying
  rw [bind_ok _ (attempt_eq act cache)]
  by_cases inside : slot < settings.maxConcurrentDecodes
  · obtain ⟨emptied, freed⟩ : ∃ emptied, (settings.executor build).free slot (left (act cache)) = .ok () emptied :=
      free_ok (kept cache sound) inside
    rw [bind_ok _ freed, outcomeOf_answer]
  · have outside : (settings.executor build).free slot (left (act cache)) =
        .error (.slotOutOfRange slot settings.maxConcurrentDecodes) (left (act cache)) := by
      simp only [executor, free, checkSlot, if_neg inside]
      rfl
    rw [bind_error _ outside, refused (Nat.not_lt.mp inside)]
    rfl

theorem live_outside (outside : settings.maxConcurrentDecodes ≤ plan.slot) :
    (settings.executor build).live table plan start state cache =
      .error (.slotOutOfRange plan.slot settings.maxConcurrentDecodes) cache := by
  have refused : (settings.executor build).insert start state plan.slot none cache =
      .error (.slotOutOfRange plan.slot settings.maxConcurrentDecodes) cache := by
    simp only [executor, checkSlot, if_neg (Nat.not_lt.mpr outside)]
    rfl
  exact bind_error _ refused

theorem outcomeOf_warmBucket (sound : settings.Sound cache) (table : TransitionTable) (plan : WarmUpPlan) (bucket : Nat) :
    outcomeOf ((settings.executor build).warmBucket table plan bucket cache) =
      outcomeOf ((settings.executor build).lifecycle table plan bucket cache) := by
  rw [warmBucket_eq, lifecycle_eq]
  refine outcomeOf_bind_congr fun _ _ checked => ?_
  obtain ⟨-, rfl⟩ := answer_success checked
  refine outcomeOf_bind_congr fun found _ prefilled => ?_
  obtain ⟨-, rfl⟩ := answer_success prefilled
  refine outcomeOf_tidying sound ((sound_kept plan.slot).live (freshState_confined settings _) found.1) fun outside => ?_
  rw [live_outside outside]
  rfl

theorem generateTimes_twins (table : TransitionTable) (steps : Nat) (state : DecodeState) :
    Mirrors settings.Twins ((settings.executor build).generateTimes table steps state)
      ((settings.executor build).generateTimes table steps state) := by
  induction steps generalizing state with
  | zero => exact mirrors_pure state
  | succ steps ih => exact mirrors_bind (generate_twins table state none) fun stepped => ih stepped.1

/-- A life ends the same on caches that differ in the ids of blocks only. -/
theorem lifecycle_twins (table : TransitionTable) (plan : WarmUpPlan) (bucket : Nat) :
    Mirrors settings.Twins ((settings.executor build).lifecycle table plan bucket)
      ((settings.executor build).lifecycle table plan bucket) := by
  rw [lifecycle_eq]
  refine mirrors_bind (mirrors_answer _) fun _ => mirrors_bind (mirrors_answer _) fun prefilled => ?_
  refine mirrors_bind (mirrors_bind (mirrors_answer _) fun _ => insertRows_twins _ _ _ _) fun state => ?_
  exact mirrors_bind (generateTimes_twins table plan.decodeSteps state) fun _ => mirrors_pure _

theorem Restored.twins (restored : settings.Restored before after) (sound : settings.Sound before) :
    settings.Twins after before :=
  ⟨restored.sound, sound, (sound.accounted.sameHoldings restored.sound.accounted restored.slots).alike⟩

theorem tidying_ends (sound : settings.Sound cache) {act : EStateM Fault SlotBlocks Unit}
    (kept : Keeps settings.Sound act) (ends : Ends settings.Sound Fault.Proper (act cache)) :
    Ends settings.Sound Fault.Proper ((settings.executor build).tidying slot act cache) := by
  unfold Executor.tidying
  rw [bind_ok _ (attempt_eq act cache)]
  refine ends_bind (free_ends (kept cache sound) slot) fun _ _ _ sound => ends_answer (fun fault failed => ?_) sound
  obtain ⟨after, ended⟩ := outcomeOf_error.mp failed
  rwa [ended] at ends

theorem prefill_dummy {bucket : Nat} (ok : settings.prefill table (plan.dummy bucket) = .ok (start, buffer)) :
    start.context.length = bucket ∧ start.logProbs.length = start.firstTokens.length := by
  have uncarried : Covered none := nofun
  exact ⟨(contextOf_length rfl uncarried (prefill_contextOf ok)).1, (Returns.prefill ok).scored.2⟩

section

variable (word : settings.blockSize < Size.limit)

include word

theorem generateTimes_ends {steps : Nat} (sound : settings.Sound cache) (confined : state.Confined slot)
    (short : ∀ row counts, cache.table? slot row = some counts → counts.numTokens + steps < Size.half) :
    Ends settings.Sound Fault.Proper ((settings.executor build).generateTimes table steps state cache) := by
  induction steps generalizing state cache with
  | zero => exact sound
  | succ steps ih =>
    have stepped : Ends settings.Sound Fault.Proper (settings.generate table state none cache) := by
      refine generate_ends_proper word sound (fun other row entry counts found active located => ?_) table none
      by_cases here : other = slot
      · subst here
        exact Nat.lt_of_le_of_lt (by omega) (short row counts located)
      · rw [confined other row entry here found] at active
        cases active
    refine ends_bind stepped fun _ between generated sound => ?_
    refine ih sound (generate_confined confined generated) fun row counts found => ?_
    obtain ⟨old, located, grown⟩ := generate_counts generated found
    exact Nat.lt_of_le_of_lt (by omega) (short row old located)

theorem live_ends (sound : settings.Sound cache) (confined : state.Confined plan.slot)
    (scored : start.logProbs.length = start.firstTokens.length)
    (short : start.context.length + 1 + plan.decodeSteps < Size.half) :
    Ends settings.Sound Fault.Proper ((settings.executor build).live table plan start state cache) := by
  have storable : start.Storable := ⟨scored, Nat.lt_of_le_of_lt (Nat.le_add_right _ _) short⟩
  refine ends_bind (ends_bind (ends_answer (checkSlot_proper _ _) sound) fun _ _ _ sound =>
    insertRows_ends word storable sound state plan.slot none) fun next between inserted later => ?_
  obtain ⟨-, placed⟩ := insert_inserted inserted
  refine ends_bind (generateTimes_ends word later (insertRows_confined confined placed) fun row counts found => ?_)
    fun _ _ _ sound => sound
  obtain ⟨tables, present, located⟩ := SlotBlocks.table?_eq_some.mp found
  obtain ⟨filled, same, size⟩ := insertRows_counts sound placed row (later.shaped.inside found).2
  obtain rfl := Option.some.inj (found.symm.trans same)
  rwa [size]

/-- Only a bucket that memory cannot hold ends in a defect. -/
theorem warmBucket_ends (sound : settings.Sound cache) {bucket : Nat} (addressable : Size.addressable bucket 4 = true)
    (short : bucket + 1 + plan.decodeSteps < Size.half) :
    Ends settings.Sound Fault.Proper ((settings.executor build).warmBucket table plan bucket cache) := by
  have checked : Proper (checkLength bucket) := by
    rw [checkLength_ok.mpr addressable]
    exact proper_ok ()
  have fits : (plan.dummy bucket : PrefillRequest Prefilled).padded.Fits := Tensor.fits_ofTokens _
  rw [warmBucket_eq]
  refine ends_bind (ends_answer checked sound) fun _ _ _ sound => ?_
  refine ends_bind (ends_answer (prefill_proper fits) sound) fun found _ prefilled sound => ?_
  obtain ⟨prefilled, -⟩ := answer_success prefilled
  obtain ⟨size, scored⟩ := prefill_dummy prefilled
  have confined := freshState_confined settings plan.slot
  exact tidying_ends sound ((sound_kept plan.slot).live confined found.1)
    (live_ends word sound confined scored (by rwa [size]))

end

end EngineSettings

end SlotServe
