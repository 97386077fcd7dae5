import SlotServe.Proofs.Serve.Steady

/-! How a run over an idle executor goes on. Every move pays off some of the tokens that are owed or leaves
the debt as it is, and a step pays off one for each sample in a slot. So the steps suffice, and nothing but
a step that the cache has no blocks for can keep the run from its end. -/
namespace SlotServe

def seatedTotal (measure : Occupant → Nat) (slots : List (Option Occupant)) : Nat :=
  Size.total (slots.map fun slot => (slot.map measure).getD 0)

def seatedDebt (slots : List (Option Occupant)) : Nat := seatedTotal Occupant.owed slots

namespace Size

theorem total_set {counts : List Nat} {place old : Nat} (found : counts[place]? = some old) (new : Nat) :
    total (counts.set place new) + old = total counts + new := by
  induction counts generalizing place with
  | nil => cases found
  | cons count rest ih =>
    cases place with
    | zero =>
      cases found
      change new + total rest + old = old + total rest + new
      omega
    | succ place =>
      have later := ih found
      change count + total (rest.set place new) + old = count + total rest + new
      omega

theorem le_total {counts : List Nat} {count : Nat} (member : count ∈ counts) : count ≤ total counts := by
  induction counts with
  | nil => cases member
  | cons first rest ih =>
    change count ≤ first + total rest
    rcases List.mem_cons.mp member with rfl | later
    · omega
    · have := ih later
      omega

end Size

section

variable {slots : List (Option Occupant)} {place : Nat} {occupant : Occupant}

theorem seatedTotal_set (measure : Occupant → Nat) {before : Option Occupant} (found : slots[place]? = some before)
    (after : Option Occupant) :
    seatedTotal measure (slots.set place after) + (before.map measure).getD 0 =
      seatedTotal measure slots + (after.map measure).getD 0 := by
  have measured : (slots.map fun slot => (slot.map measure).getD 0)[place]? = some ((before.map measure).getD 0) := by
    rw [List.getElem?_map, found]
    rfl
  rw [seatedTotal, List.map_set]
  exact Size.total_set measured _

theorem seatedDebt_set {before : Option Occupant} (found : slots[place]? = some before) (after : Option Occupant) :
    seatedDebt (slots.set place after) + (before.map Occupant.owed).getD 0 =
      seatedDebt slots + (after.map Occupant.owed).getD 0 :=
  seatedTotal_set Occupant.owed found after

theorem owed_le_seatedDebt (found : slots[place]? = some (some occupant)) : occupant.owed ≤ seatedDebt slots :=
  Size.le_total (List.mem_map.mpr ⟨some occupant, List.mem_of_getElem? found, rfl⟩)

theorem Scheduler.absorbAll_debt {buffer : ResultBuffer} {grown : List (Option Occupant)} {base : Nat}
    (ok : absorbAll buffer base slots = .ok grown)
    (pays : ∀ place (occupant after : Occupant), slots[place]? = some (some occupant) →
      occupant.absorb buffer (base + place) = .ok after → after.owed < occupant.owed) :
    seatedDebt grown + slots.countP Option.isSome ≤ seatedDebt slots := by
  induction slots generalizing base grown with
  | nil =>
    cases ok
    exact Nat.le_refl _
  | cons first rest ih =>
    have later (place : Nat) (occupant after : Occupant) (found : rest[place]? = some (some occupant))
        (absorbed : occupant.absorb buffer (base + 1 + place) = .ok after) : after.owed < occupant.owed := by
      rw [Nat.add_assoc, Nat.add_comm 1] at absorbed
      exact pays (place + 1) occupant after found absorbed
    cases first with
    | none =>
      obtain ⟨others, absorbed, done⟩ := except_links ok
      cases done
      change 0 + seatedDebt others + _ ≤ 0 + seatedDebt rest
      have rest := ih absorbed later
      rw [List.countP_cons_of_neg (by simp)]
      omega
    | some occupant =>
      obtain ⟨next, absorbing, following⟩ := except_links ok
      obtain ⟨others, absorbed, done⟩ := except_links following
      cases done
      change next.owed + seatedDebt others + _ ≤ occupant.owed + seatedDebt rest
      have first := pays 0 occupant next rfl absorbing
      have rest := ih absorbed later
      rw [List.countP_cons_of_pos (by simp)]
      omega

theorem Scheduler.absorbAll_ok {buffer : ResultBuffer} {base : Nat}
    (reads : ∀ occupant : Occupant, ∀ place < slots.length,
      ∃ after, occupant.absorb buffer (base + place) = .ok after) :
    ∃ grown, absorbAll buffer base slots = .ok grown := by
  induction slots generalizing base with
  | nil => exact ⟨[], rfl⟩
  | cons first rest ih =>
    have later (occupant : Occupant) (place : Nat) (inside : place < rest.length) :
        ∃ after, occupant.absorb buffer (base + 1 + place) = .ok after := by
      rw [Nat.add_assoc, Nat.add_comm 1]
      exact reads occupant (place + 1) (Nat.succ_lt_succ inside)
    obtain ⟨others, absorbed⟩ := ih later
    cases first with
    | none =>
      rw [absorbAll, absorbed]
      exact ⟨_, rfl⟩
    | some occupant =>
      obtain ⟨after, absorbing⟩ := reads occupant 0 (Nat.succ_pos _)
      rw [Nat.add_zero] at absorbing
      rw [absorbAll, absorbing]
      change ∃ grown, (absorbAll buffer (base + 1) rest >>= _) = .ok grown
      rw [absorbed]
      exact ⟨_, rfl⟩

end

def Scene.pending {σ S : Type} (scene : Scene σ S) : Nat :=
  Scheduler.stepBound scene.waiting + seatedDebt scene.board.slots

namespace Scheduler

/-- A move of a run that steps only where no request has all its tokens. -/
structure Eager {σ M P S V : Type} (scheduler : Scheduler σ M P S V) (scene next : Scene σ S) : Prop where
  move : scheduler.Move scene next
  interrupted : next.board.report.interrupted = scene.board.report.interrupted
  paced : next.board.report.generateSteps = scene.board.report.generateSteps ∨ scene.board.Busy

abbrev EagerMoves {σ M P S V : Type} (scheduler : Scheduler σ M P S V) : Scene σ S → Scene σ S → Prop :=
  Relation.ReflTransGen scheduler.Eager

theorem eager_of_quiet {σ M P S V : Type} {scheduler : Scheduler σ M P S V} {scene next : Scene σ S}
    (moves : scheduler.QuietMoves scene next) : scheduler.EagerMoves scene next :=
  moves.lift id fun _ _ quiet => ⟨quiet.move, quiet.interrupted, .inl quiet.steps⟩

variable {V : Type} {settings : EngineSettings} {build : VocabularySource → Except Fault V} {vocabulary : Nat}
  {scheduler : Scheduler (Front SlotBlocks) TransitionTable Prefilled DecodeState V}
  (hosts : scheduler.Hosts settings build vocabulary)

include hosts

namespace Hosts

variable {tried : Nat} {request : Request} {engine after : Front SlotBlocks} {start : Prefilled} {first : ResultBuffer}

theorem prefill_error {fault : Fault} (failed : scheduler.prefillAfter tried request engine = .error fault after) :
    after = engine := by
  have unmoved := prefill_unmoved (prefillsBy hosts.serving) request (scheduler.seed + UInt64.ofNat tried) engine
  unfold prefillAfter at failed
  rwa [failed] at unmoved

theorem prefill_ok (ok : scheduler.prefillAfter tried request engine = .ok (start, first) after) :
    after = engine ∧ start.Suits settings vocabulary request ∧
      ∃ occupant, scheduler.takeUp request first = .ok occupant ∧
      occupant.request = request ∧ occupant.samples.length = settings.samplesPerSlot ∧
      ∀ sample ∈ occupant.samples, sample.length = 1 := by
  have unmoved := prefill_unmoved (prefillsBy hosts.serving) request (scheduler.seed + UInt64.ofNat tried) engine
  unfold prefillAfter at ok
  rw [ok] at unmoved
  exact ⟨unmoved, prefill_suits (prefillsBy hosts.serving) hosts.positive hosts.bounded ok⟩

end Hosts

variable {requests : List Request} {scene later : Scene (Front SlotBlocks) DecodeState}

theorem steady_eager (steady : scene.Steady settings vocabulary requests) (eager : scheduler.Eager scene later) :
    later.Steady settings vocabulary requests := by
  obtain ⟨move, -, paced⟩ := eager
  cases move with
  | spoil free spoilt =>
    obtain rfl := hosts.prefill_error spoilt
    exact steady.quiet (List.subset_cons_self _ _)
  | takeIn free prefilled inserted seated =>
    obtain ⟨rfl, suits, occupant, taken, same, count, single⟩ := hosts.prefill_ok prefilled
    cases taken.symm.trans seated
    exact steady.seat hosts free suits same count single inserted
  | putOff free prefilled refused crowded =>
    obtain ⟨rfl, -⟩ := hosts.prefill_ok prefilled
    exact steady.refuse hosts free refused (List.Subset.refl _)
  | turnAway free prefilled refused hopeless =>
    obtain ⟨rfl, -⟩ := hosts.prefill_ok prefilled
    exact steady.refuse hosts free refused (List.subset_cons_self _ _)
  | retire seated done freed => exact steady.leave hosts seated freed
  | step generated host absorbed =>
    have busy := paced.resolve_left (Nat.succ_ne_self _)
    exact steady.step hosts busy generated host absorbed
  | interrupt => exact steady.quiet (List.Subset.refl _)

/-- What each move of a steady run keeps is kept by the run. -/
theorem Hosts.eagers_keep {Holds : Scene (Front SlotBlocks) DecodeState → Prop}
    (keeps : ∀ {scene later}, Scene.Steady settings vocabulary requests scene → scheduler.Eager scene later →
      Holds scene → Holds later)
    (steady : scene.Steady settings vocabulary requests) (holds : Holds scene)
    (moves : scheduler.EagerMoves scene later) :
    later.Steady settings vocabulary requests ∧ Holds later := by
  induction moves with
  | refl => exact ⟨steady, holds⟩
  | tail _ eager ih => exact ⟨steady_eager hosts ih.1 eager, keeps ih.1 eager ih.2⟩

theorem steady_eagers (steady : scene.Steady settings vocabulary requests) (moves : scheduler.EagerMoves scene later) :
    later.Steady settings vocabulary requests :=
  (hosts.eagers_keep (fun _ _ _ => trivial) steady trivial moves).1

theorem pending_quiet (steady : scene.Steady settings vocabulary requests) (quiet : scheduler.Quiet scene later) :
    later.pending ≤ scene.pending := by
  obtain ⟨move, steps, -⟩ := quiet
  cases move with
  | spoil | turnAway => exact Nat.add_le_add_right (Nat.le_add_left _ _) _
  | putOff | interrupt => exact Nat.le_refl _
  | @takeIn board waiting _ _ slot request _ _ _ _ _ _ free prefilled inserted seated =>
    obtain ⟨-, -, occupant, taken, same, count, single⟩ := hosts.prefill_ok prefilled
    obtain rfl := Except.ok.inj (taken.symm.trans seated)
    have some : occupant.samples ≠ [] := by
      rw [List.ne_nil_iff_length_pos, count]
      exact hosts.positive
    have owed : occupant.owed = request.maxNewTokens - 1 := by
      rw [Occupant.owed, Occupant.emitted_of_even some single, same]
    have debt : seatedDebt (board.slots.set slot (.some occupant)) + 0 = seatedDebt board.slots + occupant.owed :=
      seatedDebt_set (Board.free_of_firstFree free) (.some occupant)
    change stepBound waiting + seatedDebt (board.slots.set slot (.some occupant)) ≤
      request.maxNewTokens - 1 + stepBound waiting + seatedDebt board.slots
    omega
  | @retire board waiting _ _ slot occupant _ seated done freed =>
    have debt : seatedDebt (board.slots.set slot none) + occupant.owed = seatedDebt board.slots + 0 :=
      seatedDebt_set seated none
    change stepBound waiting + seatedDebt (board.slots.set slot none) ≤ stepBound waiting + seatedDebt board.slots
    omega
  | step => exact absurd steps (Nat.succ_ne_self _)

theorem pending_quiets (steady : scene.Steady settings vocabulary requests) (moves : scheduler.QuietMoves scene later) :
    later.pending ≤ scene.pending := by
  induction moves with
  | refl => exact Nat.le_refl _
  | tail before quiet ih =>
    exact (pending_quiet hosts (steady_eagers hosts steady (eager_of_quiet before)) quiet).trans ih

theorem Hosts.owing (steady : scene.Steady settings vocabulary requests) (busy : scene.board.Busy) {slot : Nat}
    {occupant : Occupant} (taken : scene.board.slots[slot]? = some (some occupant)) : 0 < occupant.owed := by
  obtain ⟨-, decodes⟩ := steady.seated slot occupant taken
  have unfinished := decodes.unfinished hosts.positive (busy slot occupant taken)
  unfold Occupant.owed
  omega

theorem pending_pos (steady : scene.Steady settings vocabulary requests) (busy : scene.board.Busy)
    (occupied : scene.board.anyOccupied = true) : 0 < scene.pending := by
  obtain ⟨_, member, some⟩ := List.any_eq_true.mp occupied
  obtain ⟨occupant, rfl⟩ := Option.isSome_iff_exists.mp some
  obtain ⟨slot, taken⟩ := List.mem_iff_getElem?.mp member
  have owed := hosts.owing steady busy taken
  have debt := owed_le_seatedDebt taken
  unfold Scene.pending
  omega

theorem pending_step (steady : scene.Steady settings vocabulary requests) (busy : scene.board.Busy)
    (occupied : scene.board.anyOccupied = true) (move : scheduler.Move scene later)
    (stepped : later.board.report.generateSteps = scene.board.report.generateSteps + 1) :
    later.pending < scene.pending := by
  cases move with
  | @step board waiting state tried next buffer engine copied slots generated host absorbed =>
    have inner := hosts.generate_ok generated
    obtain rfl := ResultBuffer.toHost_success host
    have debt : seatedDebt slots + board.slots.countP Option.isSome ≤ seatedDebt board.slots := by
      refine absorbAll_debt absorbed fun slot occupant after taken absorbing => ?_
      rw [Nat.zero_add] at absorbing
      have owed : 0 < occupant.owed := hosts.owing steady busy taken
      obtain ⟨-, decodes⟩ := steady.seated slot occupant taken
      obtain ⟨same, more, -⟩ := decodes.stepped hosts.bounded steady.attended.sound steady.grid hosts.positive
        (busy slot occupant taken) inner absorbing
      rw [Occupant.owed] at owed ⊢
      rw [Occupant.owed, same, more]
      omega
    have some : 0 < board.slots.countP Option.isSome := List.countP_pos_iff.mpr (List.any_eq_true.mp occupied)
    change stepBound waiting + seatedDebt slots < stepBound waiting + seatedDebt board.slots
    omega
  | spoil | takeIn | putOff | turnAway | retire | interrupt => exact absurd stepped.symm (Nat.succ_ne_self _)

end Scheduler

end SlotServe
