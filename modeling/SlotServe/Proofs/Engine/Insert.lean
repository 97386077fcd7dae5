import SlotServe.Engine.Table
import SlotServe.Proofs.Outcome

/-! The course of an insert. It checks the number of samples, gives back what the slot still holds,
reserves blocks for all rows, and only then writes the rows. -/
namespace SlotServe.EngineSettings

variable (settings : EngineSettings) (start : Prefilled) (state : DecodeState) (slot : Nat)
  (requestId : Option RequestId)

def placeRows : EStateM Fault SlotBlocks DecodeState := do
  let length ← answer (orDefect .overflow (Size.add? start.context.length 1))
  settings.reserveSlot slot length
  let rows ← answer (seedRows start requestId 0 settings.samplesPerSlot)
  return state.setSlot slot rows

def FitsSlot : Prop :=
  start.firstTokens.length = 1 ∨ start.firstTokens.length = settings.samplesPerSlot

instance : Decidable (settings.FitsSlot start) :=
  inferInstanceAs (Decidable (_ ∨ _))

theorem insertRows_eq (cache : SlotBlocks) :
    settings.insertRows start state slot requestId cache =
      if settings.FitsSlot start then
        match cache.slots[slot]? with
        | none => .error (.blocks (.unknownSlot slot cache.numSlots)) cache
        | some tables =>
          if tables.any fun table => !table.isEmpty then
            (SlotBlocks.freeSlot slot >>= fun _ =>
              settings.placeRows start state slot requestId) cache
          else settings.placeRows start state slot requestId cache
      else .error (.sampleCountMismatch settings.samplesPerSlot start.firstTokens.length) cache := by
  unfold insertRows
  dsimp only
  by_cases fits : settings.FitsSlot start
  · rw [if_pos fits, if_neg (by unfold FitsSlot at fits; omega)]
    rw [get_bind]
    cases present : cache.slots[slot]? with
    | none =>
      have absent : answer (cache.rows slot) cache =
          .error (.blocks (.unknownSlot slot cache.numSlots)) cache := by
        simp only [answer, SlotBlocks.rows, present]
      exact bind_error _ absent
    | some tables =>
      have found : answer (cache.rows slot) cache = .ok tables cache := by
        simp only [answer, SlotBlocks.rows, present]
      rw [bind_ok _ found]
      by_cases live : (tables.any fun table => !table.isEmpty) = true
      · simp only [if_pos live]
        rfl
      · simp only [if_neg live]
        rfl
  · rw [if_neg fits, if_pos (by unfold FitsSlot at fits; omega)]
    rfl

end SlotServe.EngineSettings
