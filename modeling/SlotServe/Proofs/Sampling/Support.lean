import SlotServe.Proofs.Sampling.Greedy
import SlotServe.Proofs.Sampling.Softmax

/-! The tokens of a row that can be drawn. Scores from zero up to four leave some, at every temperature that is a
number: the lowest temperature that still divides the scores takes them no further than `2 ^ 22`, an infinite one takes
them to zero, and the token of the largest weight survives the limits on rank and mass. A temperature that is no number
leaves none. -/
namespace SlotServe.Sampling

open Floating Binary32

-- Bounds of the format are checked by computing with fractions.
unseal Rat.mul Rat.inv Rat.add Rat.sub

def UpToFour (score : Float32) : Prop := 0 ≤ score ∧ score < 4

instance : DecidablePred UpToFour := fun score => inferInstanceAs (Decidable (0 ≤ score ∧ score < 4))

theorem hasValue_four : HasValue (4 : Float32) 4 := by
  have value : valueOf .binary32 0x40800000 = 4 := by decide
  exact value ▸ hasValue_word (x := (4 : Float32)) (by decide)

theorem UpToFour.value {score : Float32} (inside : UpToFour score) : ∃ v, HasValue score v ∧ 0 ≤ v ∧ v < 4 :=
  value_between hasValue_zero hasValue_four inside.1 inside.2

section Scaled

variable {score temperature : Float32}

theorem div_infinity {v : ℚ} (has : HasValue score v) {sign : Float.Model.UnpackedFloat.Sign}
    (infinite : temperature.toModel.unpack = .infinity sign) : HasValue (score / temperature) 0 := by
  have holds : Holds .binary32 score.toModel.unpack v := has
  obtain ⟨sign, quotient⟩ : ∃ sign, Float.Model.UnpackedFloat.div .binary32 score.toModel.unpack
      temperature.toModel.unpack = .zero sign := by
    rw [infinite]
    generalize score.toModel.unpack = unpacked at holds
    cases holds
    · exact ⟨_, rfl⟩
    · exact ⟨_, rfl⟩
  have packed : Machine.word (score / temperature) = Float.Model.UnpackedFloat.pack .binary32 (.zero sign) :=
    congrArg (Float.Model.UnpackedFloat.pack .binary32) quotient
  refine hasValue_of_packed packed (.zero sign) ?_
  rw [abs_zero, limit]
  positivity

/-- Scores in range stay finite at every temperature at which tokens are drawn. -/
theorem UpToFour.scaled {parameters : Parameters} (inside : UpToFour score)
    (number : parameters.temperature.isNaN = false) (drawn : parameters.isGreedy = false) :
    Within (score / parameters.temperature) 0 (2 ^ 22) := by
  obtain ⟨v, has, positive, small⟩ := inside.value
  have warm : ¬ parameters.temperature < Parameters.greedyBelow := of_decide_eq_false drawn
  obtain ⟨g, least, above, -⟩ : Within Parameters.greedyBelow (1 / 2 ^ 20) 1 :=
    within_ofBits (by decide) (by decide) (by decide)
  rcases value_cases parameters.temperature with none | ⟨sign, infinite⟩ | ⟨t, temperature⟩
  · rw [number] at none
    cases none
  · exact (div_infinity has infinite).within le_rfl (by positivity)
  · rw [lt_iff_lt temperature least] at warm
    have unit : 1 / 2 ^ 20 ≤ t := above.trans (not_lt.mp warm)
    have divides : (0 : ℚ) < t := lt_of_lt_of_le (by positivity) unit
    refine has.div temperature divides.ne' (bounds_of_sound (by decide)) (by positivity) ?_
    rw [div_le_iff₀ divides]
    linarith

end Scaled

section NoNumber

variable {x y : Float32}

theorem isNaN_div (none : y.isNaN = true) : (x / y).isNaN = true := by
  have quotient : Float.Model.UnpackedFloat.div .binary32 x.toModel.unpack y.toModel.unpack = .notANumber := by
    rw [unpack_of_isNaN none]
    cases x.toModel.unpack <;> rfl
  change (Float.Model.UnpackedFloat.unpack .binary32 (Float.Model.UnpackedFloat.pack .binary32
    (Float.Model.UnpackedFloat.div .binary32 x.toModel.unpack y.toModel.unpack))).isNaN = true
  rw [quotient]
  rfl

theorem isNaN_sub (none : x.isNaN = true) : (x - y).isNaN = true := by
  have difference : Float.Model.UnpackedFloat.sub .binary32 x.toModel.unpack y.toModel.unpack = .notANumber := by
    rw [unpack_of_isNaN none]
    rfl
  change (Float.Model.UnpackedFloat.unpack .binary32 (Float.Model.UnpackedFloat.pack .binary32
    (Float.Model.UnpackedFloat.sub .binary32 x.toModel.unpack y.toModel.unpack))).isNaN = true
  rw [difference]
  rfl

theorem not_pos_of_isNaN (none : x.isNaN = true) : ¬ 0 < x := fun positive => by
  rw [(Binary32.lt_iff.mp positive).2.1] at none
  cases none

end NoNumber

/-- A temperature that is no number leaves no weight that is one. -/
theorem softmaxWeights_none {temperature : Float32} (none : temperature.isNaN = true) (row : List Float32) :
    ∀ weight ∈ softmaxWeights row temperature, weight.isNaN = true := by
  intro weight listed
  rw [softmaxWeights, logSoftmax, List.map_map, List.map_map] at listed
  obtain ⟨score, -, rfl⟩ := List.mem_map.mp listed
  have scaled : (score / temperature - logTotal (row.map (· / temperature))).isNaN = true := isNaN_sub (isNaN_div none)
  change (exp (score / temperature - logTotal (row.map (· / temperature)))).isNaN = true
  rwa [exp, if_pos scaled]

/-- A weight that is positive anywhere is so at the first rank. -/
theorem RankedFirst.pos {weights : List Float32} {top : Nat} (first : RankedFirst weights top)
    (numbers : ∀ weight ∈ weights, weight.isNaN = false) (some : ∃ weight ∈ weights, 0 < weight) :
    0 < weights.getD top 0 := by
  obtain ⟨weight, member, positive⟩ := some
  have number := numbers _ (List.mem_of_getElem? (getElem?_of_lt first.inside))
  have above := (Binary32.lt_iff.mp positive).2.2.trans_le (first.highest weight member)
  exact Binary32.lt_iff.mpr ⟨by decide, number, above⟩

section Keep

variable {weights : List Float32} {kept : List Nat}

theorem mem_keepOnly {weight : Float32} (member : weight ∈ keepOnly kept weights) : weight ∈ weights ∨ weight = 0 := by
  obtain ⟨entry, listed, rfl⟩ := List.mem_map.mp member
  split
  · exact .inl (List.mem_of_getElem? (List.mem_zipIdx_iff_getElem?.mp listed))
  · exact .inr rfl

theorem keepOnly_pos {token : Nat} (member : token ∈ kept) (inside : token < weights.length)
    (positive : 0 < weights.getD token 0) : ∃ weight ∈ keepOnly kept weights, 0 < weight := by
  refine ⟨_, List.mem_of_getElem? (getElem?_keepOnly kept inside), ?_⟩
  rwa [if_pos member]

theorem keepOnly_eligible (eligible : ∀ weight ∈ weights, ¬ weight ≤ 0 → 0 < weight) :
    ∀ weight ∈ keepOnly kept weights, ¬ weight ≤ 0 → 0 < weight := by
  intro weight member above
  rcases mem_keepOnly member with old | rfl
  · exact eligible weight old above
  · exact absurd (by decide) above

end Keep

namespace Candidates

variable {row : List Float32} {parameters : Parameters}

theorem support_pos_iff {candidates : Candidates} :
    0 < candidates.support ↔ ∃ weight ∈ candidates.weights, 0 < weight := by
  rw [support, List.countP_pos_iff]
  simp

theorem weights_pos_drawn (some : row ≠ []) (range : ∀ score ∈ row, UpToFour score)
    (number : parameters.temperature.isNaN = false) (drawn : parameters.isGreedy = false) :
    (∃ weight ∈ (ofRow row parameters).weights, 0 < weight) ∧
      ∀ weight ∈ (ofRow row parameters).weights, ¬ weight ≤ 0 → 0 < weight := by
  have scaled : ∀ score ∈ row.map (· / parameters.temperature), Within score 0 (2 ^ 22) := by
    intro score listed
    obtain ⟨score, member, rfl⟩ := List.mem_map.mp listed
    exact (range score member).scaled number drawn
  obtain ⟨values, positive⟩ := weights_values (by simpa using some) scaled
  rw [← softmaxWeights] at values positive
  have filled : softmaxWeights row parameters.temperature ≠ [] := by
    rintro none
    rw [none] at positive
    obtain ⟨_, member, -⟩ := positive
    cases member
  obtain ⟨top, rest, ranked, first⟩ := rankDescending_head filled
  have kept : top ∈ survivors row parameters := by
    have head := survivors_head some parameters
    rw [ranked] at head
    exact List.mem_of_mem_head? head
  rw [weights_ofRow drawn]
  have numbers : ∀ weight ∈ softmaxWeights row parameters.temperature, weight.isNaN = false := by
    intro weight old
    obtain ⟨e, valued, -⟩ := values weight old
    exact isNaN_eq_false valued
  refine ⟨keepOnly_pos kept first.inside (first.pos numbers positive), keepOnly_eligible fun weight old above => ?_⟩
  obtain ⟨e, valued, -⟩ := values weight old
  rw [le_iff_le valued hasValue_zero, not_le] at above
  exact (lt_iff_lt hasValue_zero valued).mpr above

theorem weights_pos_greedy (some : row ≠ []) (cold : parameters.isGreedy = true) :
    (∃ weight ∈ (ofRow row parameters).weights, 0 < weight) ∧
      ∀ weight ∈ (ofRow row parameters).weights, ¬ weight ≤ 0 → 0 < weight := by
  obtain ⟨top, rest, ranked, first⟩ := rankDescending_head some
  rw [weights_ofRow_greedy cold ranked]
  have inside : top < (row.map fun _ => (1 : Float32)).length := by
    rw [List.length_map]
    exact first.inside
  have one : (row.map fun _ => (1 : Float32)).getD top 0 = 1 := by
    rw [List.getD, getElem?_of_lt inside]
    simp [first.inside]
  refine ⟨keepOnly_pos List.mem_cons_self inside (by rw [one]; decide), keepOnly_eligible fun weight old _ => ?_⟩
  obtain ⟨_, -, rfl⟩ := List.mem_map.mp old
  decide

theorem weights_pos (some : row ≠ []) (range : ∀ score ∈ row, UpToFour score)
    (number : parameters.temperature.isNaN = false) :
    (∃ weight ∈ (ofRow row parameters).weights, 0 < weight) ∧
      ∀ weight ∈ (ofRow row parameters).weights, ¬ weight ≤ 0 → 0 < weight := by
  cases drawn : parameters.isGreedy with
  | false => exact weights_pos_drawn some range number drawn
  | true => exact weights_pos_greedy some drawn

theorem weights_none (none : parameters.temperature.isNaN = true) :
    ∀ weight ∈ (ofRow row parameters).weights, ¬ 0 < weight := by
  have drawn : parameters.isGreedy = false := decide_eq_false fun cold => by
    rw [(Binary32.lt_iff.mp cold).1] at none
    cases none
  rw [weights_ofRow drawn]
  intro weight member
  rcases mem_keepOnly member with old | rfl
  · exact not_pos_of_isNaN (softmaxWeights_none none row weight old)
  · decide

theorem support_pos_iff_number (some : row ≠ []) (range : ∀ score ∈ row, UpToFour score) :
    0 < (ofRow row parameters).support ↔ parameters.temperature.isNaN = false := by
  rw [support_pos_iff]
  refine ⟨fun ⟨weight, member, positive⟩ => ?_, fun number => (weights_pos some range number).1⟩
  by_contra none
  exact weights_none (eq_true_of_ne_false none) weight member positive

theorem drawMany_pos (some : row ≠ []) (range : ∀ score ∈ row, UpToFour score)
    (number : parameters.temperature.isNaN = false) (short : row.length < 4294967296) (count : Nat)
    (stream : Random.WordStream) : ∀ draw ∈ ((ofRow row parameters).drawMany count stream).1,
      ∃ weight, (ofRow row parameters).weights[draw.token.toNat]? = .some weight ∧ 0 < weight := by
  obtain ⟨⟨weight, member, positive⟩, above⟩ := weights_pos some range number
  have short : (ofRow row parameters).weights.length < 4294967296 := by rwa [length_weights]
  refine drawMany_each (fun stream => ?_) count stream
  obtain ⟨weight, drawn, eligible⟩ := draw_eligible short ⟨weight, member, not_le_of_lt positive⟩ stream
  exact ⟨weight, drawn, above weight (List.mem_of_getElem? drawn) eligible⟩

end Candidates

end SlotServe.Sampling
