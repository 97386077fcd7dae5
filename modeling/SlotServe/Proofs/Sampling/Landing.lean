import SlotServe.Proofs.Random.Position
import SlotServe.Proofs.Sampling.Draw

/-! Where a draw lands. Nothing is asked of the arithmetic: whatever the target is and whatever is left of it on
the way, also when it is no number, the walk remembers the last eligible position that it passed. A token is
eligible unless its weight is at most zero; a weight that is no number leaves it eligible. -/
namespace SlotServe.Sampling

open SlotServe.Random (WordStream)

theorem landing_none {weights : List Float32} (none : ∀ weight ∈ weights, weight ≤ 0) (target : Float32)
    (found place : Nat) : landing target found place weights = found := by
  induction weights generalizing place with
  | nil => rfl
  | cons weight rest ih =>
    rw [landing, if_pos (none weight List.mem_cons_self)]
    exact ih (fun other member => none other (List.mem_cons_of_mem weight member)) (place + 1)

/-- The walk ends at a position of the list that is eligible, if there is any. -/
theorem landing_eligible {weights : List Float32} (some : ∃ weight ∈ weights, ¬ weight ≤ 0) (target : Float32)
    (found place : Nat) : ∃ index weight, weights[index]? = .some weight ∧ ¬ weight ≤ 0 ∧
      landing target found place weights = place + index := by
  induction weights generalizing target found place with
  | nil =>
    obtain ⟨weight, member, -⟩ := some
    cases member
  | cons weight rest ih =>
    -- What the rest answers, one position further on.
    have later (target : Float32) (found : Nat) (some : ∃ weight ∈ rest, ¬ weight ≤ 0) :
        ∃ index other, (weight :: rest)[index]? = .some other ∧ ¬ other ≤ 0 ∧
          landing target found (place + 1) rest = place + index := by
      obtain ⟨index, other, at_index, eligible, lands⟩ := ih some target found (place + 1)
      exact ⟨index + 1, other, at_index, eligible, by rw [lands]; omega⟩
    rw [landing]
    split
    next nothing =>
      refine later target found ?_
      obtain ⟨other, member, eligible⟩ := some
      rcases List.mem_cons.mp member with rfl | member
      · exact absurd nothing eligible
      · exact ⟨other, member, eligible⟩
    next eligible =>
      split
      · exact ⟨0, weight, rfl, eligible, rfl⟩
      · by_cases more : ∃ other ∈ rest, ¬ other ≤ 0
        · exact later _ place more
        · refine ⟨0, weight, rfl, eligible, landing_none (fun other member => ?_) _ _ _⟩
          exact not_not.mp fun eligible => more ⟨other, member, eligible⟩

namespace Candidates

theorem drawMany_at (candidates : Candidates) (count : Nat) {stream : WordStream} {position : Nat}
    (here : stream.At position) : (candidates.drawMany count stream).2.At (position + count) := by
  induction count generalizing stream position with
  | zero => exact here
  | succ count ih =>
    have after : (candidates.draw stream).2.At (position + 1) := here.next.2
    have rest := ih after
    rwa [Nat.add_assoc, Nat.add_comm 1] at rest

variable {candidates : Candidates} (short : candidates.weights.length < 4294967296)

include short

theorem draw_token_eq (stream : WordStream) : (candidates.draw stream).1.token.toNat =
    landing (stream.nextUnit.1 * sum candidates.weights) 0 0 candidates.weights := by
  refine Nat.mod_eq_of_lt ?_
  by_cases none : candidates.weights = []
  · rw [none]
    exact Nat.zero_lt_succ _
  · have positive := List.length_pos_iff.mpr none
    have inside : landing (stream.nextUnit.1 * sum candidates.weights) 0 0 candidates.weights <
        0 + candidates.weights.length := landing_lt _ (by omega)
    exact inside.trans (by omega)

theorem draw_eligible (some : ∃ weight ∈ candidates.weights, ¬ weight ≤ 0) (stream : WordStream) :
    ∃ weight, candidates.weights[(candidates.draw stream).1.token.toNat]? = .some weight ∧ ¬ weight ≤ 0 := by
  obtain ⟨index, weight, at_index, eligible, lands⟩ :=
    landing_eligible some (stream.nextUnit.1 * sum candidates.weights) 0 0
  rw [draw_token_eq short, lands, Nat.zero_add]
  exact ⟨weight, at_index, eligible⟩

theorem draw_none (none : ∀ weight ∈ candidates.weights, weight ≤ 0) (stream : WordStream) :
    (candidates.draw stream).1.token = 0 := by
  refine UInt32.toNat_inj.mp ?_
  rw [draw_token_eq short, landing_none none]
  rfl

end Candidates

/-- A draw from fewer than `2 ^ 32` weights, whatever they are and whatever state the stream is in, lands on an
eligible token if there is one, and then on none that was struck out, else on the first; it is a token of the row.
One word is taken from the stream for each draw. -/
theorem draw_lands_on_eligible (candidates : Candidates) (short : candidates.weights.length < 4294967296)
    (stream : WordStream) :
    ((∃ weight ∈ candidates.weights, ¬ weight ≤ 0) →
        (∃ weight, candidates.weights[(candidates.draw stream).1.token.toNat]? = some weight ∧ ¬ weight ≤ 0) ∧
          ∀ place, candidates.weights[place]? = some 0 → (candidates.draw stream).1.token.toNat ≠ place) ∧
      ((∀ weight ∈ candidates.weights, weight ≤ 0) → (candidates.draw stream).1.token = 0) ∧
      (candidates.weights ≠ [] → (candidates.draw stream).1.token.toNat < candidates.weights.length) ∧
      (candidates.draw stream).2 = stream.next.2 ∧
      ∀ count position, stream.At position → (candidates.drawMany count stream).2.At (position + count) := by
  refine ⟨fun eligible => ?_, fun none => Candidates.draw_none short none stream,
    fun some => Candidates.draw_lt some stream, rfl, fun count position here => candidates.drawMany_at count here⟩
  obtain ⟨weight, drawn, positive⟩ := Candidates.draw_eligible short eligible stream
  refine ⟨⟨weight, drawn, positive⟩, fun place struck same => positive ?_⟩
  rw [same, struck] at drawn
  obtain rfl := Option.some.inj drawn
  decide

/-- Also where neither the sum of the weights nor the target is a number. -/
theorem draw_lands_on_unordered : ([0, Float32.ofBits 0x7FC00000, 0] : List Float32).length < 4294967296 ∧
    ∀ seed, (∃ weight,
      [0, Float32.ofBits 0x7FC00000, 0][((⟨[], [0, Float32.ofBits 0x7FC00000, 0]⟩ : Candidates).draw
        (.ofSeed seed)).1.token.toNat]? = some weight ∧ ¬ weight ≤ 0) ∧
      ∀ count, ((⟨[], [0, Float32.ofBits 0x7FC00000, 0]⟩ : Candidates).drawMany count (.ofSeed seed)).2.At count := by
  refine ⟨by decide, fun seed => ?_⟩
  obtain ⟨lands, -, -, -, advances⟩ :=
    draw_lands_on_eligible ⟨[], [0, Float32.ofBits 0x7FC00000, 0]⟩ (by decide) (.ofSeed seed)
  refine ⟨(lands ⟨Float32.ofBits 0x7FC00000, by simp, by decide⟩).1, fun count => ?_⟩
  have after := advances count 0 (Random.WordStream.ofSeed_at seed)
  rwa [Nat.zero_add] at after

end SlotServe.Sampling
