import SlotServe.Proofs.Sampling.Ranking

/-! The tokens that the limits on rank and mass leave in a row. The second limit runs over weights that the first one
has struck out already; up to the first limit the running sums are those of the whole row, and past it nothing can
be kept, so that the first ranks survive, as many as the smaller of the two limits says. -/
namespace SlotServe.Sampling

def softmaxWeights (row : List Float32) (temperature : Float32) : List Float32 :=
  (logSoftmax (row.map (· / temperature))).map Binary32.exp

theorem length_softmaxWeights (row : List Float32) (temperature : Float32) :
    (softmaxWeights row temperature).length = row.length := by
  simp [softmaxWeights, logSoftmax]

def rankLimit (topK length : Nat) : Nat := if 0 < topK ∧ topK < length then topK else length

def massLimit (topP : Float32) (ranked : List Float32) : Nat :=
  if 0 < topP ∧ topP < 1 then (List.range ranked.length).findIdx fun rank => topP ≤ sum (ranked.take rank)
  else ranked.length

section Limits

variable {topK length rank : Nat} {topP mass : Float32} {ranked other : List Float32}

theorem rankLimit_le_length : rankLimit topK length ≤ length := by
  unfold rankLimit
  split <;> omega

theorem rankLimit_le (some : 0 < topK) : rankLimit topK length ≤ topK := by
  unfold rankLimit
  split <;> omega

theorem rankLimit_mono {lower : Nat} (some : 0 < lower) (le : lower ≤ topK) :
    rankLimit lower length ≤ rankLimit topK length := by
  unfold rankLimit
  split <;> split <;> omega

theorem rankLimit_pos (some : 0 < length) : 0 < rankLimit topK length := by
  unfold rankLimit
  split <;> omega

/-- A rank is kept when the mass is reached neither before it nor before an earlier one. -/
theorem lt_massLimit_iff : rank < massLimit topP ranked ↔ rank < ranked.length ∧
    (0 < topP → topP < 1 → ∀ earlier ≤ rank, ¬ topP ≤ sum (ranked.take earlier)) := by
  unfold massLimit
  split
  next both =>
    rw [List.lt_findIdx_iff]
    simp [both]
  next off => exact ⟨fun inside => ⟨inside, fun some part => absurd ⟨some, part⟩ off⟩, And.left⟩

theorem lt_nucleusSize_iff : rank < nucleusSize topP mass ranked ↔ rank < ranked.length ∧
    ∀ earlier ≤ rank, ¬ topP ≤ (ranked.take earlier).foldl (· + ·) mass := by
  induction ranked generalizing mass rank with
  | nil => simp [nucleusSize]
  | cons weight rest ih =>
    rw [nucleusSize]
    split
    next reached =>
      refine iff_of_false (Nat.not_lt_zero rank) fun kept => kept.2 0 (Nat.zero_le rank) reached
    next short =>
      cases rank with
      | zero => simpa using short
      | succ rank =>
        rw [Nat.add_lt_add_iff_right, ih, List.length_cons, Nat.add_lt_add_iff_right]
        refine and_congr_right fun _ => ⟨fun later earlier le => ?_, fun all earlier le => ?_⟩
        · cases earlier with
          | zero => exact short
          | succ earlier => exact later earlier (Nat.le_of_succ_le_succ le)
        · exact all (earlier + 1) (Nat.succ_le_succ le)

/-- As far as two lists of weights are the same, so are the ranks kept. -/
theorem min_massLimit (same : ranked.take rank = other.take rank) (within : rank ≤ ranked.length)
    (within' : rank ≤ other.length) : min (massLimit topP ranked) rank = min (massLimit topP other) rank := by
  have prefixes {earlier : Nat} (le : earlier ≤ rank) : ranked.take earlier = other.take earlier := by
    have cut := congrArg (·.take earlier) same
    simpa only [List.take_take, Nat.min_eq_left le] using cut
  refine eq_of_forall_lt_iff fun place => ?_
  rw [lt_min_iff, lt_min_iff, lt_massLimit_iff, lt_massLimit_iff]
  refine and_congr_left fun inside => ?_
  have sums : (∀ earlier ≤ place, ¬ topP ≤ sum (ranked.take earlier)) ↔
      ∀ earlier ≤ place, ¬ topP ≤ sum (other.take earlier) :=
    forall₂_congr fun earlier le => by rw [prefixes (le.trans inside.le)]
  rw [sums]
  exact and_congr_left fun _ => iff_of_true (inside.trans_le within) (inside.trans_le within')

theorem massLimit_mono {lower : Float32} (some : 0 < lower) (le : lower ≤ topP) :
    massLimit lower ranked ≤ massLimit topP ranked := by
  refine le_of_forall_lt fun rank kept => ?_
  rw [lt_massLimit_iff] at kept ⊢
  refine ⟨kept.1, fun _ part earlier before reached => ?_⟩
  exact kept.2 some (Binary32.lt_of_le_of_lt le part) earlier before (Binary32.le_trans le reached)

theorem massLimit_pos (topP : Float32) (some : 0 < ranked.length) : 0 < massLimit topP ranked := by
  refine lt_massLimit_iff.mpr ⟨some, fun positive _ earlier first reached => ?_⟩
  obtain rfl := Nat.le_zero.mp first
  exact Binary32.not_le_of_lt positive reached

end Limits

def survivors (row : List Float32) (parameters : Parameters) : List Nat :=
  let weights := softmaxWeights row parameters.temperature
  let ranked := rankDescending weights
  ranked.take (min (rankLimit parameters.topK row.length)
    (massLimit parameters.topP (ranked.map fun token => weights.getD token 0)))

section Keep

variable {weights : List Float32} {kept ranked : List Nat} {token : Nat}

theorem getElem?_keepOnly (kept : List Nat) (inside : token < weights.length) :
    (keepOnly kept weights)[token]? = some (if token ∈ kept then weights.getD token 0 else 0) := by
  simp [keepOnly, List.getElem?_eq_getElem inside]

theorem getD_keepOnly (member : token ∈ kept) : (keepOnly kept weights).getD token 0 = weights.getD token 0 := by
  by_cases inside : token < weights.length
  · rw [List.getD, getElem?_keepOnly kept inside, if_pos member]
    rfl
  · have outside : weights[token]? = none := List.getElem?_eq_none (Nat.le_of_not_lt inside)
    simp [List.getD, keepOnly, outside]

theorem keepOnly_keepOnly {first second : List Nat} (both : ∀ token, token ∈ kept ↔ token ∈ second ∧ token ∈ first)
    (weights : List Float32) : keepOnly second (keepOnly first weights) = keepOnly kept weights := by
  unfold keepOnly
  rw [zipIdx_map_zipIdx, List.map_map]
  refine List.map_congr_left fun weight _ => ?_
  by_cases member : weight.2 ∈ second <;> simp [member, both]

theorem withinRank_eq (topK : Nat) (ranked : List Nat) :
    withinRank topK ranked = ranked.take (rankLimit topK ranked.length) := by
  unfold withinRank rankLimit
  split
  · rfl
  · exact (List.take_length).symm

theorem withinMass_eq (topP : Float32) (ranked : List Nat) (weights : List Float32) :
    withinMass topP ranked weights =
      ranked.take (massLimit topP (ranked.map fun token => weights.getD token 0)) := by
  unfold withinMass
  by_cases both : 0 < topP ∧ topP < 1
  · have size : nucleusSize topP 0 (ranked.map fun token => weights.getD token 0) =
        massLimit topP (ranked.map fun token => weights.getD token 0) := by
      refine eq_of_forall_lt_iff fun rank => ?_
      rw [lt_nucleusSize_iff, lt_massLimit_iff]
      simp only [both, forall_const]
      rfl
    rw [if_pos (by simpa using both), size]
  · have all : massLimit topP (ranked.map fun token => weights.getD token 0) = ranked.length := by
      rw [massLimit, if_neg both, List.length_map]
    rw [if_neg (by simpa using both), all, List.take_length]

theorem mem_take_min {first second : Nat} :
    token ∈ ranked.take (min first second) ↔ token ∈ ranked.take first ∧ token ∈ ranked.take second := by
  rcases Nat.le_total first second with le | le
  · rw [Nat.min_eq_left le]
    exact ⟨fun member => ⟨member, (List.take_subset_take_left ranked le) member⟩, And.left⟩
  · rw [Nat.min_eq_right le]
    exact ⟨fun member => ⟨(List.take_subset_take_left ranked le) member, member⟩, And.right⟩

end Keep

namespace Candidates

variable {row : List Float32} {parameters : Parameters}

/-- The mass limit runs over weights that the rank limit has struck out, and counts the same ranks. -/
theorem weights_ofRow (drawn : parameters.isGreedy = false) : (ofRow row parameters).weights =
    keepOnly (survivors row parameters) (softmaxWeights row parameters.temperature) := by
  have unfolded : (ofRow row parameters).weights =
      let weights := softmaxWeights row parameters.temperature
      let ranked := rankDescending weights
      let struck := keepOnly (withinRank parameters.topK ranked) weights
      keepOnly (withinMass parameters.topP ranked struck) struck := by
    unfold ofRow
    rw [if_neg (by rw [drawn]; decide)]
    rfl
  have count := length_softmaxWeights row parameters.temperature
  have ranks := length_rankDescending (softmaxWeights row parameters.temperature)
  rw [unfolded]
  unfold survivors
  dsimp only
  rw [withinRank_eq, withinMass_eq, ranks, count]
  generalize softmaxWeights row parameters.temperature = weights at *
  have most : rankLimit parameters.topK row.length ≤ (rankDescending weights).length := by
    rw [ranks, count]
    exact rankLimit_le_length
  -- Up to the rank limit, what is left of the ranked weights is what they were.
  have same : ((rankDescending weights).map fun token =>
        (keepOnly ((rankDescending weights).take (rankLimit parameters.topK row.length)) weights).getD token 0).take
          (rankLimit parameters.topK row.length) =
      ((rankDescending weights).map fun token => weights.getD token 0).take (rankLimit parameters.topK row.length) := by
    rw [← List.map_take, ← List.map_take]
    exact List.map_congr_left fun token member => getD_keepOnly member
  have limits (topP : Float32) := @min_massLimit _ topP _ _ same (by rwa [List.length_map]) (by rwa [List.length_map])
  refine keepOnly_keepOnly (fun token => ?_) weights
  rw [Nat.min_comm, ← limits, mem_take_min]

theorem support_le_length_survivors (drawn : parameters.isGreedy = false) :
    (ofRow row parameters).support ≤ (survivors row parameters).length := by
  unfold support
  rw [weights_ofRow drawn]
  generalize survivors row parameters = kept
  generalize softmaxWeights row parameters.temperature = weights
  have nodup : ((weights.zipIdx.filter fun weight => kept.contains weight.2).map (·.2)).Nodup := by
    refine List.Nodup.sublist (List.filter_sublist.map _) ?_
    rw [List.zipIdx_map_snd]
    exact List.nodup_range'
  have part : (weights.zipIdx.filter fun weight => kept.contains weight.2).map (·.2) ⊆ kept := by
    intro token member
    obtain ⟨weight, found, rfl⟩ := List.mem_map.mp member
    simpa using (List.mem_filter.mp found).2
  calc (keepOnly kept weights).countP (0 < ·)
      = weights.zipIdx.countP fun weight => 0 < if kept.contains weight.2 then weight.1 else 0 := by
        rw [keepOnly, List.countP_map]
        rfl
    _ ≤ weights.zipIdx.countP fun weight => kept.contains weight.2 := by
        refine List.countP_mono_left fun weight _ positive => ?_
        by_contra struck
        rw [if_neg struck] at positive
        exact absurd positive (by decide)
    _ = ((weights.zipIdx.filter fun weight => kept.contains weight.2).map (·.2)).length := by
        rw [List.countP_eq_length_filter, List.length_map]
    _ ≤ kept.length := (List.subperm_of_subset nodup part).length_le

end Candidates

/-- Limits that are the same, or lower and not switched off. -/
structure Tighter (tight loose : Parameters) : Prop where
  temperature : tight.temperature = loose.temperature
  topP : tight.topP = loose.topP ∨ 0 < tight.topP ∧ tight.topP ≤ loose.topP
  topK : tight.topK = loose.topK ∨ 0 < tight.topK ∧ tight.topK ≤ loose.topK

variable {row : List Float32}

theorem survivors_prefix {tight loose : Parameters} (tighter : Tighter tight loose) :
    survivors row tight <+: survivors row loose := by
  unfold survivors
  dsimp only
  rw [tighter.temperature]
  refine List.take_prefix_take_left (min_le_min ?_ ?_)
  · rcases tighter.topK with same | ⟨some, le⟩
    · rw [same]
    · exact rankLimit_mono some le
  · rcases tighter.topP with same | ⟨some, le⟩
    · rw [same]
    · exact massLimit_mono some le

theorem length_survivors_le {parameters : Parameters} (some : 0 < parameters.topK) :
    (survivors row parameters).length ≤ parameters.topK := by
  unfold survivors
  dsimp only
  rw [List.length_take]
  have : rankLimit parameters.topK row.length ≤ parameters.topK := rankLimit_le some
  omega

theorem survivors_head (some : row ≠ []) (parameters : Parameters) : (survivors row parameters).head? =
    (rankDescending (softmaxWeights row parameters.temperature)).head? := by
  have positive := List.length_pos_iff.mpr some
  unfold survivors
  dsimp only
  rw [List.head?_take, if_neg]
  have ranks : 0 < rankLimit parameters.topK row.length := rankLimit_pos positive
  have filled : 0 < ((rankDescending (softmaxWeights row parameters.temperature)).map
      fun token => (softmaxWeights row parameters.temperature).getD token 0).length := by
    rwa [List.length_map, length_rankDescending, length_softmaxWeights]
  have masses := massLimit_pos parameters.topP filled
  omega

/-- The candidates of a row keep their weights on the first ranks, as many as both limits leave, and have none
elsewhere. The first rank is among them, and tighter limits add none. -/
theorem ofRow_keeps_first_ranks (row : List Float32) (parameters : Parameters)
    (drawn : parameters.isGreedy = false) :
    let weights := softmaxWeights row parameters.temperature
    let ranked := rankDescending weights
    let mass := massLimit parameters.topP (ranked.map fun token => weights.getD token 0)
    let kept := ranked.take (min (rankLimit parameters.topK row.length) mass)
    ranked.Perm (List.range row.length) ∧ ranked.Pairwise (Ahead weights) ∧
      (Candidates.ofRow row parameters).weights.length = row.length ∧
      (∀ token < row.length, (Candidates.ofRow row parameters).weights[token]? =
        some (if token ∈ kept then weights.getD token 0 else 0)) ∧
      (row ≠ [] → ∃ top, ranked.head? = some top ∧ kept.head? = some top) ∧
      (0 < parameters.topK → kept.length ≤ parameters.topK ∧
        (Candidates.ofRow row parameters).support ≤ parameters.topK) ∧
      ∀ tight, Tighter tight parameters → survivors row tight <+: kept := by
  have count := length_softmaxWeights row parameters.temperature
  refine ⟨?_, rankDescending_ahead _, Candidates.length_weights row parameters, fun token inside => ?_,
    fun some => ?_, fun some => ?_, fun tight tighter => survivors_prefix tighter⟩
  · rw [← count]
    exact rankDescending_perm _
  · rw [Candidates.weights_ofRow drawn]
    exact getElem?_keepOnly _ (by rwa [count])
  · have filled : softmaxWeights row parameters.temperature ≠ [] := by
      rwa [List.ne_nil_iff_length_pos, count, List.length_pos_iff]
    obtain ⟨top, rest, eq, -⟩ := rankDescending_head filled
    have first : (rankDescending (softmaxWeights row parameters.temperature)).head? = .some top := by
      rw [eq]
      rfl
    exact ⟨top, first, (survivors_head some parameters).trans first⟩
  · have few : (survivors row parameters).length ≤ parameters.topK := length_survivors_le some
    exact ⟨few, (Candidates.support_le_length_survivors drawn).trans few⟩

/-- Two limits at once, over scores of which one is no number. -/
theorem ofRow_keeps_first_ranks_mixed :
    ({ topP := 0.5, topK := 2 } : Parameters).isGreedy = false ∧
      (Candidates.ofRow [1, Float32.ofBits 0x7FC00000, 3] { topP := 0.5, topK := 2 }).support ≤ 2 ∧
      survivors [1, Float32.ofBits 0x7FC00000, 3] { topP := 0.25, topK := 1 } <+:
        survivors [1, Float32.ofBits 0x7FC00000, 3] { topP := 0.5, topK := 2 } := by
  have drawn : ({ topP := 0.5, topK := 2 } : Parameters).isGreedy = false := by decide
  obtain ⟨-, -, -, -, -, few, tighter⟩ :=
    ofRow_keeps_first_ranks [1, Float32.ofBits 0x7FC00000, 3] { topP := 0.5, topK := 2 } drawn
  exact ⟨drawn, (few (by decide)).2, tighter _ ⟨rfl, .inr (by decide), .inr (by decide)⟩⟩

end SlotServe.Sampling
