import Mathlib.Order.Bounds.Basic
import SlotServe.Proofs.Engine.Spread

/-! Lists of slots that a call does not take. Of several faults the first in the list is reported, and of two in
one place that the slot is out of range. The list is read to its end before any slot of it is touched. -/
namespace SlotServe

variable {numSlots slot place : Nat} {seen slots rest : List Nat} {fault : Fault}

def faultyPlaces (numSlots : Nat) (seen slots : List Nat) : Set Nat :=
  {place | ∃ slot, slots[place]? = some slot ∧ (numSlots ≤ slot ∨ slot ∈ seen ∨ slot ∈ slots.take place)}

def slotFault (numSlots slot : Nat) : Fault :=
  if numSlots ≤ slot then .slotOutOfRange slot numSlots else .duplicateSlot slot

theorem zero_mem_faultyPlaces : 0 ∈ faultyPlaces numSlots seen (slot :: rest) ↔ numSlots ≤ slot ∨ slot ∈ seen := by
  simp [faultyPlaces]

theorem succ_mem_faultyPlaces :
    place + 1 ∈ faultyPlaces numSlots seen (slot :: rest) ↔ place ∈ faultyPlaces numSlots (slot :: seen) rest := by
  refine exists_congr fun other => ?_
  rw [List.getElem?_cons_succ, List.take_succ_cons, List.mem_cons, List.mem_cons]
  exact and_congr_right' (or_congr_right (or_left_comm.trans or_assoc.symm))

/-- Without a fault at the first slot, the first fault of the list is that of its rest, one place on. -/
theorem isLeast_faultyPlaces_cons (clear : 0 ∉ faultyPlaces numSlots seen (slot :: rest)) :
    IsLeast (faultyPlaces numSlots seen (slot :: rest)) (place + 1) ↔
      IsLeast (faultyPlaces numSlots (slot :: seen) rest) place := by
  constructor
  · rintro ⟨faulty, least⟩
    refine ⟨succ_mem_faultyPlaces.mp faulty, fun other member => ?_⟩
    exact Nat.le_of_succ_le_succ (least (succ_mem_faultyPlaces.mpr member))
  · rintro ⟨faulty, least⟩
    refine ⟨succ_mem_faultyPlaces.mpr faulty, ?_⟩
    rintro (_ | other) member
    · exact absurd member clear
    · exact Nat.succ_le_succ (least (succ_mem_faultyPlaces.mp member))

theorem checkSlotsAfter_cons : checkSlotsAfter numSlots seen (slot :: rest) =
    if numSlots ≤ slot ∨ slot ∈ seen then .error (slotFault numSlots slot)
    else checkSlotsAfter numSlots (slot :: seen) rest := by
  rw [checkSlotsAfter, slotFault]
  by_cases outside : numSlots ≤ slot
  · simp [outside]
  · by_cases again : slot ∈ seen <;> simp [outside, again]

/-- The check fails at the first faulty place. -/
theorem checkSlotsAfter_error : checkSlotsAfter numSlots seen slots = .error fault ↔
    ∃ place slot, IsLeast (faultyPlaces numSlots seen slots) place ∧ slots[place]? = some slot ∧
      fault = slotFault numSlots slot := by
  induction slots generalizing seen with
  | nil => exact iff_of_false nofun fun ⟨_, _, _, found, _⟩ => by cases found
  | cons slot rest ih =>
    rw [checkSlotsAfter_cons]
    by_cases bad : numSlots ≤ slot ∨ slot ∈ seen
    · have first : 0 ∈ faultyPlaces numSlots seen (slot :: rest) := zero_mem_faultyPlaces.mpr bad
      rw [if_pos bad, Except.error.injEq]
      constructor
      · rintro rfl
        exact ⟨0, slot, ⟨first, fun _ _ => Nat.zero_le _⟩, rfl, rfl⟩
      · rintro ⟨place, other, ⟨-, least⟩, found, rfl⟩
        obtain rfl : place = 0 := Nat.le_zero.mp (least first)
        rw [Option.some.inj found]
    · have clear : 0 ∉ faultyPlaces numSlots seen (slot :: rest) := fun faulty => bad (zero_mem_faultyPlaces.mp faulty)
      rw [if_neg bad, ih]
      constructor
      · rintro ⟨place, other, least, found, rfl⟩
        exact ⟨place + 1, other, (isLeast_faultyPlaces_cons clear).mpr least, found, rfl⟩
      · rintro ⟨_ | place, other, least, found, rfl⟩
        · exact absurd least.1 clear
        · exact ⟨place, other, (isLeast_faultyPlaces_cons clear).mp least, found, rfl⟩

/-- A list of slots passes exactly if all slots are in range and different. Otherwise the first slot that is out of
range or named before is reported, and to insert into the list does nothing but report it. -/
theorem first_bad_slot_reported (numSlots : Nat) (slots : List Nat) :
    (checkSlots numSlots slots = .ok () ↔ (∀ slot ∈ slots, slot < numSlots) ∧ slots.Nodup) ∧
    (∀ fault, checkSlots numSlots slots = .error fault ↔
      ∃ place slot, slots[place]? = some slot ∧
        IsLeast {place | ∃ slot, slots[place]? = some slot ∧ (numSlots ≤ slot ∨ slot ∈ slots.take place)} place ∧
        fault = if numSlots ≤ slot then .slotOutOfRange slot numSlots else .duplicateSlot slot) ∧
    ∀ {V : Type} (settings : EngineSettings) (build : VocabularySource → Except Fault V) (start : Prefilled)
      (state : DecodeState) (cache : SlotBlocks), settings.maxConcurrentDecodes = numSlots →
      ∀ fault, checkSlots numSlots slots = .error fault →
        (settings.executor build).insertAll start state slots cache = .error fault cache := by
  refine ⟨checkSlots_ok.trans and_comm, fun fault => ?_, ?_⟩
  · have places : faultyPlaces numSlots [] slots =
        {place | ∃ slot, slots[place]? = some slot ∧ (numSlots ≤ slot ∨ slot ∈ slots.take place)} := by
      simp [faultyPlaces]
    rw [checkSlots, checkSlotsAfter_error, places]
    apply exists₂_congr
    intro place slot
    exact and_left_comm
  · rintro V settings build start state cache rfl fault wrong
    exact bind_error _ (congrArg (fun checked => answer checked cache) wrong)

/-- A slot that is named twice is reported before one that is out of range further on. -/
theorem repeated_slot_reported :
    checkSlots 2 [1, 0, 1, 5] = .error (.duplicateSlot 1) ∧
      (∃ place slot, [1, 0, 1, 5][place]? = some slot ∧
        IsLeast {place | ∃ slot, [1, 0, 1, 5][place]? = some slot ∧ (2 ≤ slot ∨ slot ∈ [1, 0, 1, 5].take place)} place ∧
        Fault.duplicateSlot 1 = if 2 ≤ slot then .slotOutOfRange slot 2 else .duplicateSlot slot) ∧
      (EngineSettings.tight.executor fun _ => .ok ()).insertAll EngineSettings.longPrompt (.fresh 2 1) [1, 0, 1, 5]
        EngineSettings.tightCache = .error (.duplicateSlot 1) EngineSettings.tightCache := by
  obtain ⟨-, faults, untouched⟩ := first_bad_slot_reported 2 [1, 0, 1, 5]
  have reported : checkSlots 2 [1, 0, 1, 5] = .error (.duplicateSlot 1) := rfl
  exact ⟨reported, (faults _).mp reported,
    untouched .tight (fun _ => (.ok () : Except Fault Unit)) _ _ _ rfl _ reported⟩

end SlotServe
