import SlotServe.Proofs.Sampling.Filters
import SlotServe.Proofs.Sampling.Landing

/-! The token of the highest score, found in two ways. A scan keeps the first of the highest scores, and the two
zeros are of one height to it; a ranking sets them apart. The ways part where the highest score is zero and the first
zero is a negative one that a positive one follows. -/
namespace SlotServe.Sampling

open Binary32 (key place)

structure FirstHighest (row : List Float32) (best : Nat) (top : Float32) : Prop where
  entry : row[best]? = some top
  highest : ∀ score ∈ row, key score ≤ key top
  earlier : ∀ position < best, ∀ other, row[position]? = some other → key other < key top

namespace FirstHighest

variable {row : List Float32} {best other : Nat} {top next : Float32}

theorem inside (first : FirstHighest row best top) : best < row.length :=
  (List.getElem?_eq_some_iff.mp first.entry).1

theorem position_eq (first : FirstHighest row best top) (also : FirstHighest row other next) : best = other := by
  have level : key top = key next := le_antisymm
    (also.highest top (List.mem_of_getElem? first.entry)) (first.highest next (List.mem_of_getElem? also.entry))
  rcases Nat.lt_trichotomy best other with before | same | after
  · exact absurd (also.earlier best before top first.entry) (by omega)
  · exact same
  · exact absurd (first.earlier other after next also.entry) (by omega)

theorem append_of_lt (first : FirstHighest row best top) (higher : key top < key next) :
    FirstHighest (row ++ [next]) row.length next := by
  refine ⟨List.getElem?_concat_length, fun score member => ?_, fun position before other entry => ?_⟩
  · rcases List.mem_append.mp member with old | new
    · have := first.highest score old
      omega
    · rw [List.mem_singleton.mp new]
  · rw [List.getElem?_append_left before] at entry
    have := first.highest other (List.mem_of_getElem? entry)
    omega

theorem append_of_le (first : FirstHighest row best top) (lower : key next ≤ key top) :
    FirstHighest (row ++ [next]) best top := by
  refine ⟨?_, fun score member => ?_, fun position before other entry => ?_⟩
  · rw [List.getElem?_append_left first.inside]
    exact first.entry
  · rcases List.mem_append.mp member with old | new
    · exact first.highest score old
    · rwa [List.mem_singleton.mp new]
  · rw [List.getElem?_append_left (before.trans first.inside)] at entry
    exact first.earlier position before other entry

end FirstHighest

/-- What the scan has found in the scores that it has seen, it finds in the whole row. -/
theorem bestFrom_firstHighest {seen rest : List Float32} {found : Nat} {best : Float32}
    (numbers : ∀ score ∈ seen ++ rest, score.isNaN = false) (first : FirstHighest seen found best) :
    ∃ top, FirstHighest (seen ++ rest) (bestFrom (Extreme.replaces .largest) best found seen.length rest) top := by
  induction rest generalizing seen found best with
  | nil => exact ⟨best, by simpa [bestFrom] using first⟩
  | cons next rest ih =>
    have longer : seen.length + 1 = (seen ++ [next]).length := by simp
    have higher : Extreme.replaces .largest best next = true ↔ key best < key next := by
      have number := numbers best (List.mem_append_left _ (List.mem_of_getElem? first.entry))
      have number' := numbers next (List.mem_append_right _ List.mem_cons_self)
      unfold Extreme.replaces
      rw [decide_eq_true_iff, Binary32.lt_iff, and_iff_right number, and_iff_right number']
    rw [List.append_cons] at numbers ⊢
    rw [bestFrom, longer]
    split
    next replaced => exact ih numbers (first.append_of_lt (higher.mp replaced))
    next kept => exact ih numbers (first.append_of_le (Int.not_lt.mp (mt higher.mpr kept)))

theorem bestIndex_firstHighest {row : List Float32} (some : row ≠ [])
    (numbers : ∀ score ∈ row, score.isNaN = false) :
    ∃ top, FirstHighest row (bestIndex (Extreme.replaces .largest) row) top := by
  obtain ⟨first, rest, rfl⟩ := List.exists_cons_of_ne_nil some
  have alone : FirstHighest [first] 0 first :=
    ⟨rfl, by simp, fun position before => absurd before (Nat.not_lt_zero position)⟩
  exact bestFrom_firstHighest numbers alone

def negativeZero : Float32 := Float32.ofBits 0x80000000

/-- The highest score of the row is zero, the first zero is negative and there is a positive one. -/
structure ZerosApart (row : List Float32) (first : Nat) : Prop where
  negative : row[first]? = some negativeZero
  positive : 0 ∈ row
  highest : ∀ score ∈ row, score ≤ 0
  earlier : ∀ position < first, ∀ other, row[position]? = some other → other < 0

theorem key_negativeZero : key negativeZero = key 0 := by decide

theorem ZerosApart.firstHighest {row : List Float32} {first : Nat} (apart : ZerosApart row first) :
    FirstHighest row first negativeZero := by
  refine ⟨apart.negative, fun score member => ?_, fun position before other entry => ?_⟩
  · rw [key_negativeZero]
    exact (Binary32.le_iff.mp (apart.highest score member)).2.2
  · rw [key_negativeZero]
    exact (Binary32.lt_iff.mp (apart.earlier position before other entry)).2.2

section Compare

variable {row : List Float32} {best top : Nat} {score : Float32}

theorem getElem?_of_lt {position : Nat} (inside : position < row.length) :
    row[position]? = some (row.getD position 0) := by
  simp [List.getElem?_eq_getElem inside]

theorem FirstHighest.key_eq (first : FirstHighest row best score) (ranked : RankedFirst row top) :
    key (row.getD top 0) = key score :=
  le_antisymm (first.highest _ (List.mem_of_getElem? (getElem?_of_lt ranked.inside)))
    (ranked.highest score (List.mem_of_getElem? first.entry))

/-- The scores of the two positions compare as equal: they are one number, or the two zeros. -/
theorem FirstHighest.level (numbers : ∀ score ∈ row, score.isNaN = false) (first : FirstHighest row best score)
    (ranked : RankedFirst row top) : row.getD best 0 ≤ row.getD top 0 ∧ row.getD top 0 ≤ row.getD best 0 := by
  have same : key (row.getD best 0) = key (row.getD top 0) := by
    rw [first.key_eq ranked, getD_of_getElem? first.entry]
  have number {position : Nat} (inside : position < row.length) : (row.getD position 0).isNaN = false :=
    numbers _ (List.mem_of_getElem? (getElem?_of_lt inside))
  exact ⟨Binary32.le_iff.mpr ⟨number first.inside, number ranked.inside, same.le⟩,
    Binary32.le_iff.mpr ⟨number ranked.inside, number first.inside, same.ge⟩⟩

theorem ZerosApart.ne {first : Nat} (apart : ZerosApart row first) (ranked : RankedFirst row top) : first ≠ top := by
  rintro rfl
  have negative := getD_of_getElem? apart.negative
  obtain ⟨other, entry⟩ := List.mem_iff_getElem?.mp apart.positive
  have positive := getD_of_getElem? entry
  have distinct : other ≠ first := by
    rintro rfl
    exact absurd (positive.symm.trans negative) (by decide)
  have order := ranked.ahead other (List.getElem?_eq_some_iff.mp entry).1 distinct
  unfold Ahead at order
  rw [negative, positive] at order
  exact absurd (order.imp_right And.left) (by decide)

/-- Where they part, the score found by the ranking is of the same height and above in the total order. -/
theorem FirstHighest.zerosApart (numbers : ∀ score ∈ row, score.isNaN = false) (first : FirstHighest row best score)
    (ranked : RankedFirst row top) (distinct : best ≠ top) : ZerosApart row best := by
  have at_top := getElem?_of_lt ranked.inside
  have level := first.key_eq ranked
  have order := ranked.ahead best first.inside distinct
  unfold Ahead at order
  rw [getD_of_getElem? first.entry] at order
  have less : place score < place (row.getD top 0) := by
    refine order.resolve_right fun ⟨same, before⟩ => ?_
    exact absurd (first.earlier top before _ at_top) (by omega)
  obtain ⟨negative, positive⟩ := (Binary32.eq_or_zeros_of_key_eq level.symm less.le).resolve_left
    fun same => by rw [same] at less; exact Nat.lt_irrefl _ less
  have lowest : score = negativeZero := Float32.toBits_inj.mp negative
  have zero : row.getD top 0 = 0 := Float32.toBits_inj.mp positive
  rw [lowest] at first
  refine ⟨first.entry, ?_, fun other member => ?_, fun position before other entry => ?_⟩
  · rw [← zero]
    exact List.mem_of_getElem? at_top
  · refine Binary32.le_iff.mpr ⟨numbers other member, by decide, ?_⟩
    rw [← key_negativeZero]
    exact first.highest other member
  · refine Binary32.lt_iff.mpr ⟨numbers other (List.mem_of_getElem? entry), by decide, ?_⟩
    rw [← key_negativeZero]
    exact first.earlier position before other entry

/-- Scan and ranking part where two zeros are told apart, and only there. -/
theorem FirstHighest.eq_iff (numbers : ∀ score ∈ row, score.isNaN = false) (first : FirstHighest row best score)
    (ranked : RankedFirst row top) : best = top ↔ ¬ ∃ position, ZerosApart row position := by
  constructor
  · rintro rfl ⟨position, apart⟩
    exact apart.ne ranked (first.position_eq apart.firstHighest).symm
  · intro alike
    by_contra distinct
    exact alike ⟨best, first.zerosApart numbers ranked distinct⟩

end Compare

namespace Candidates

variable {row : List Float32} {parameters : Parameters}

theorem weights_ofRow_greedy (greedy : parameters.isGreedy = true) {top : Nat} {rest : List Nat}
    (ranked : rankDescending row = top :: rest) :
    (ofRow row parameters).weights = keepOnly [top] (row.map fun _ => 1) := by
  unfold ofRow ofBest
  rw [if_pos greedy, ranked]
  rfl

/-- Below the lowest temperature every draw is of the position that the ranking puts first. -/
theorem draw_greedy (greedy : parameters.isGreedy = true) {top : Nat} {rest : List Nat}
    (ranked : rankDescending row = top :: rest) (stream : Random.WordStream) :
    ((ofRow row parameters).draw stream).1.token = UInt32.ofNat top := by
  have weight {position : Nat} (inside : position < row.length) :
      (ofRow row parameters).weights[position]? = some (if position = top then 1 else 0) := by
    rw [weights_ofRow_greedy greedy ranked, getElem?_keepOnly [top] (by rwa [List.length_map])]
    simp [inside]
  have member : top < row.length := by
    have ranks := (rankDescending_perm row).mem_iff (a := top)
    rw [ranked, List.mem_range] at ranks
    exact ranks.mp List.mem_cons_self
  have eligible : ∃ weight ∈ (ofRow row parameters).weights, ¬ weight ≤ 0 := by
    refine ⟨1, List.mem_of_getElem? (i := top) ?_, by decide⟩
    rw [weight member, if_pos rfl]
  obtain ⟨index, found, entry, positive, lands⟩ :=
    landing_eligible eligible (stream.nextUnit.1 * sum (ofRow row parameters).weights) 0 0
  have inside : index < row.length := by
    rw [← length_weights row parameters]
    exact (List.getElem?_eq_some_iff.mp entry).1
  have here : index = top := by
    by_contra elsewhere
    rw [weight inside, if_neg elsewhere] at entry
    obtain rfl := Option.some.inj entry
    exact positive (by decide)
  rw [Nat.zero_add, here] at lands
  exact congrArg UInt32.ofNat lands

end Candidates

end SlotServe.Sampling
