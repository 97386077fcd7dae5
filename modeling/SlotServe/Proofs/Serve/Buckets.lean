import SlotServe.Proofs.Engine.Padding
import SlotServe.Proofs.Prompt.Lengths
import SlotServe.Proofs.Serve.Admission

/-! The length that a prompt is padded to. Prefill reads the prompt and not the padding, at once or in
chunks, so that any two lists of buckets lead to the same answer. -/
namespace SlotServe

theorem addressable_of_le {count more bytes : Nat} (fewer : count ≤ more)
    (addressable : Size.addressable more bytes = true) : Size.addressable count bytes = true := by
  have bound := Nat.mul_le_mul_right bytes fewer
  simp only [Size.addressable, decide_eq_true_eq] at addressable ⊢
  omega

section

variable {buckets others : List Nat} (fit : ∀ bucket ∈ buckets, Size.addressable bucket 4 = true)

include fit

theorem checkLength_nearest (length : Nat) : checkLength (nearestLength buckets length) = checkLength length := by
  unfold checkLength
  rcases nearestLength_cases buckets length with same | ⟨member, holds⟩
  · rw [same]
  · rw [fit _ member, addressable_of_le holds (fit _ member)]

/-- The prompt is refused whatever the buckets, or only the padding depends on them. -/
theorem padPrompt_buckets (othersFit : ∀ bucket ∈ others, Size.addressable bucket 4 = true) (tokens : List UInt32)
    (pad : UInt32) :
    (∃ fault, padPrompt tokens pad buckets = .error fault ∧ padPrompt tokens pad others = .error fault) ∨
      ∃ padding otherPadding, padPrompt tokens pad buckets = .ok (tokens ++ padding, tokens.length) ∧
        padPrompt tokens pad others = .ok (tokens ++ otherPadding, tokens.length) := by
  unfold padPrompt
  simp only [checkLength_nearest fit, checkLength_nearest othersFit]
  split
  · exact .inl ⟨_, rfl, rfl⟩
  · cases checkLength tokens.length with
    | error fault => exact .inl ⟨fault, rfl, rfl⟩
    | ok _ => exact .inr ⟨_, _, rfl, rfl⟩

end

def PrefillRequest.padding {P : Type} (prompt padding : List UInt32) (requestId : Option RequestId) :
    PrefillRequest P :=
  { padded := .ofTokens (prompt ++ padding), trueLength := prompt.length, requestId }

theorem PrefillRequest.padding_alike {P : Type} (prompt padding otherPadding : List UInt32)
    (requestId : Option RequestId) :
    (PrefillRequest.padding prompt padding requestId : PrefillRequest P).Alike
      (.padding prompt otherPadding requestId) := by
  have holds (rest : List UInt32) : prompt.length ≤ (prompt ++ rest).length := by simp
  refine ⟨rfl, rfl, rfl, rfl, rfl, rfl, holds padding, holds otherPadding, ?_⟩
  have lead (rest : List UInt32) : (prompt ++ rest).take prompt.length = prompt := List.take_left
  exact (lead padding).trans (lead otherPadding).symm

/-- Prefill of a request answers the same for any lists of buckets that can be addressed. -/
theorem Scheduler.prefill_buckets {σ V : Type} {settings : EngineSettings}
    {scheduler : Scheduler σ TransitionTable Prefilled DecodeState V}
    (prefills : scheduler.executor.PrefillsBy settings) {others : List Nat}
    (fit : ∀ bucket ∈ scheduler.buckets, Size.addressable bucket 4 = true)
    (othersFit : ∀ bucket ∈ others, Size.addressable bucket 4 = true) (request : Request) (seed : UInt64) :
    scheduler.prefill request seed = { scheduler with buckets := others }.prefill request seed := by
  unfold Scheduler.prefill
  rcases padPrompt_buckets fit othersFit request.prompt scheduler.padId with
    ⟨fault, first, second⟩ | ⟨padding, otherPadding, first, second⟩
  · rw [first, second]
  · rw [first, second]
    have prefill {first second : PrefillRequest Prefilled} (alike : first.Alike second) :
        scheduler.executor.prefill scheduler.model first = scheduler.executor.prefill scheduler.model second := by
      rw [prefills.prefill, prefills.prefill, EngineSettings.prefill_alike alike]
    have alike := PrefillRequest.padding_alike (P := Prefilled) request.prompt padding otherPadding (some request.id)
    have many : scheduler.executor.prefillMany scheduler.model (.padding request.prompt padding (some request.id)) =
        scheduler.executor.prefillMany scheduler.model (.padding request.prompt otherPadding (some request.id)) := by
      funext seed count
      rw [prefills.prefillMany, prefills.prefillMany, EngineSettings.prefillMany_alike alike]
    have chunked := Executor.prefillChunked_alike prefill alike
    exact ite_congr rfl (fun _ => congrFun (congrFun many _) _) fun _ => chunked

end SlotServe
