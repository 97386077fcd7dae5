import SlotServe.Proofs.Binary32.Logarithm
import SlotServe.Sampling.Softmax

/-! The weights of a row of finite scores, none negative and none beyond `2 ^ 22`. The sum of the exponentials stays
finite for a row of any length, because it stops to grow long before it overflows. So the largest score keeps a weight
above zero, and no weight falls below zero. -/
namespace SlotServe.Sampling

open Floating Binary32

-- Bounds of the format are checked by computing with fractions.
unseal Rat.mul Rat.inv Rat.add Rat.sub

/-- The best of a row is one of its scores, and the largest. -/
theorem foldl_best {row : List Float32} {best : Float32} {b : ℚ} (has : HasValue best b)
    (finite : ∀ score ∈ row, ∃ v, HasValue score v) :
    ∃ most, HasValue (row.foldl (fun best score => if best < score then score else best) best) most ∧
      row.foldl (fun best score => if best < score then score else best) best ∈ best :: row ∧
      ∀ score ∈ best :: row, ∀ v, HasValue score v → v ≤ most := by
  -- The best of the scores that were passed takes part as one more score.
  induction row generalizing best b with
  | nil =>
    refine ⟨b, has, List.mem_cons_self, fun score member v has' => ?_⟩
    obtain rfl := List.mem_singleton.mp member
    exact (has'.unique has).le
  | cons next rest ih =>
    obtain ⟨n, valued⟩ := finite next List.mem_cons_self
    have finite : ∀ score ∈ rest, ∃ v, HasValue score v := fun score member =>
      finite score (List.mem_cons_of_mem next member)
    rw [List.foldl_cons]
    by_cases less : best < next
    · rw [if_pos less]
      obtain ⟨most, found, member, above⟩ := ih valued finite
      refine ⟨most, found, List.mem_cons_of_mem best member, fun score other v has' => ?_⟩
      rcases List.mem_cons.mp other with rfl | other
      · rw [has'.unique has]
        exact ((lt_iff_lt has valued).mp less).le.trans (above next List.mem_cons_self n valued)
      · exact above score other v has'
    · rw [if_neg less]
      obtain ⟨most, found, member, above⟩ := ih has finite
      refine ⟨most, found, ?_, fun score other v has' => ?_⟩
      · exact (List.cons_subset_cons best (List.subset_cons_self next rest)) member
      · rcases List.mem_cons.mp other with rfl | other
        · exact above score List.mem_cons_self v has'
        · rcases List.mem_cons.mp other with rfl | other
          · rw [has'.unique valued]
            exact (not_lt.mp (mt (lt_iff_lt has valued).mpr less)).trans (above best List.mem_cons_self b has)
          · exact above score (List.mem_cons_of_mem best other) v has'

theorem largest_value {row : List Float32} (some : row ≠ []) (finite : ∀ score ∈ row, ∃ v, HasValue score v) :
    ∃ most, HasValue (largest row) most ∧ largest row ∈ row ∧ ∀ score ∈ row, ∀ v, HasValue score v → v ≤ most := by
  obtain ⟨first, rest, rfl⟩ := List.exists_cons_of_ne_nil some
  obtain ⟨v, has⟩ := finite first List.mem_cons_self
  have least : negativeInfinity.toModel.unpack = .infinity .negative := by rfl
  have above : negativeInfinity < first := (lt_infinity least has).1.mpr rfl
  unfold largest
  rw [List.foldl_cons, if_pos above]
  exact foldl_best has fun score member => finite score (List.mem_cons_of_mem first member)

/-- The numbers beyond `2 ^ 27` are too far apart for four to make a difference. -/
theorem add_stalls {sum term : Float32} {s w : ℚ} (has : HasValue sum s) (has' : HasValue term w) (positive : 0 ≤ s)
    (most : s ≤ 2 ^ 27) (positive' : 0 ≤ w) (small : w ≤ 4) :
    ∃ next, HasValue (sum + term) next ∧ s ≤ next ∧ w ≤ next ∧ next ≤ 2 ^ 27 := by
  have bounds : Bounds .binary32 0 ((2 : ℚ) ^ (28 : ℤ)) := by
    refine ⟨exact_zero _, exact_two_pow (by decide), ?_, ?_⟩ <;> norm_num [limit, Float.Model.Format.exponentBias]
  have below : s + w < 2 ^ (23 + 4 : ℤ) + 2 ^ (4 : ℤ) / 2 := by
    norm_num at most ⊢
    linarith
  obtain ⟨next, computed, nearest⟩ := has.add_near has' bounds (by linarith) (by norm_num at most ⊢; linarith)
  refine ⟨next, computed, nearest.ge has.exact (by linarith), nearest.ge has'.exact (by linarith), ?_⟩
  have power : (2 : ℚ) ^ ((23 : ℕ) + 4 : ℤ) = 2 ^ 27 := by norm_num
  exact (nearest.stalls 4 (by decide) below).trans_eq power

/-- However many terms a sum has, it stays within `2 ^ 27`, and it reaches each term. -/
theorem foldl_add_value {terms : List Float32} {sum : Float32} {s : ℚ} (has : HasValue sum s) (positive : 0 ≤ s)
    (most : s ≤ 2 ^ 27) (small : ∀ term ∈ terms, Within term 0 4) :
    ∃ total, HasValue (terms.foldl (· + ·) sum) total ∧ s ≤ total ∧ total ≤ 2 ^ 27 ∧
      ∀ term ∈ terms, ∀ w, HasValue term w → w ≤ total := by
  induction terms generalizing sum s with
  | nil => exact ⟨s, has, le_rfl, most, fun _ member => absurd member List.not_mem_nil⟩
  | cons term rest ih =>
    obtain ⟨w, has', positive', small'⟩ := small term List.mem_cons_self
    obtain ⟨next, added, kept, reached, most⟩ := add_stalls has has' positive most positive' small'
    obtain ⟨total, found, above, most, each⟩ :=
      ih added (positive.trans kept) most fun other member => small other (List.mem_cons_of_mem term member)
    refine ⟨total, found, kept.trans above, most, fun other member v valued => ?_⟩
    rcases List.mem_cons.mp member with rfl | member
    · rw [valued.unique has']
      exact reached.trans above
    · exact each other member v valued

section Row

variable {row : List Float32} (some : row ≠ []) (range : ∀ score ∈ row, Within score 0 (2 ^ 22))

include some range

theorem largest_within : ∃ most, HasValue (largest row) most ∧ largest row ∈ row ∧
    (∀ score ∈ row, ∀ v, HasValue score v → v ≤ most) ∧ 0 ≤ most ∧ most ≤ 2 ^ 22 := by
  obtain ⟨most, top, member, above⟩ := largest_value some fun score member => (range score member).imp fun _ => And.left
  obtain ⟨positive, small⟩ := (range _ member).value top
  exact ⟨most, top, member, above, positive, small⟩

/-- A score less the largest one is a number that is not positive, and zero for the largest. -/
theorem sub_largest_value {score : Float32} (member : score ∈ row) :
    ∃ d, HasValue (score - largest row) d ∧ d ≤ 0 ∧ (score = largest row → d = 0) := by
  obtain ⟨most, top, -, above, -, small⟩ := largest_within some range
  obtain ⟨v, has, positive, -⟩ := range score member
  have bounds : Bounds .binary32 (-2 ^ 22) 0 := bounds_of_sound (by decide)
  have below := above score member v has
  obtain ⟨d, computed, nearest⟩ := has.sub_near top bounds (by linarith) (by linarith)
  refine ⟨d, computed, nearest.le bounds.high_exact (by linarith), fun same => ?_⟩
  subst same
  rw [has.unique top, sub_self] at nearest
  exact nearest.eq (exact_zero _)

/-- The sum of the exponentials has the one of the largest score in it, and stays finite. -/
theorem sum_exp_within : Within (sum (row.map fun score => exp (score - largest row))) (1 / 2) (2 ^ 27) := by
  obtain ⟨-, -, inside, -⟩ := largest_within some range
  have terms : ∀ term ∈ row.map fun score => exp (score - largest row), Within term 0 4 := by
    intro term listed
    obtain ⟨score, member, rfl⟩ := List.mem_map.mp listed
    obtain ⟨d, has, negative, -⟩ := sub_largest_value some range member
    obtain ⟨e, valued, least, small, -⟩ := exp_value has (by linarith)
    exact ⟨e, valued, least, small negative⟩
  obtain ⟨total, found, -, bounded, reaches⟩ := foldl_add_value hasValue_zero le_rfl (by positivity) terms
  obtain ⟨d, has, -, zero⟩ := sub_largest_value some range inside
  obtain rfl := zero rfl
  obtain ⟨e, valued, -, -, floor⟩ := exp_value has (by norm_num)
  have floor := floor 0 (by norm_num) le_rfl (by norm_num)
  have reached := reaches _ (List.mem_map_of_mem inside) e valued
  refine ⟨total, found, ?_, bounded⟩
  norm_num at floor ⊢
  exact floor.trans reached

/-- The logarithm of the sum is not far from the largest score. -/
theorem logTotal_within {most : ℚ} (top : HasValue (largest row) most) :
    Within (logTotal row) (most - 65) (most + 65) := by
  obtain ⟨_, top', -, -, positive, small⟩ := largest_within some range
  obtain rfl := top.unique top'
  obtain ⟨total, sum, half, bounded⟩ := sum_exp_within some range
  obtain ⟨l, logarithm, least, greatest⟩ := log_within sum half (bounded.trans_lt (by norm_num))
  -- Rounding does not cross whole numbers.
  have floor := Int.floor_le most
  have ceil := Int.le_ceil most
  have lowest : 0 ≤ ⌊most⌋ := Int.floor_nonneg.mpr positive
  have highest : ⌈most⌉ ≤ 2 ^ 22 := Int.ceil_le.mpr (by exact_mod_cast small)
  have close := Int.floor_le_ceil most
  have bounds : Bounds .binary32 ((⌊most⌋ - 64 : ℤ) : ℚ) ((⌈most⌉ + 64 : ℤ) : ℚ) := by
    refine bounds_intCast ?_ ?_ (by decide) <;> norm_num [Float.Model.Format.mantissaBits, abs_lt] <;> omega
  have within := top.add logarithm bounds (by push_cast; linarith) (by push_cast; linarith)
  refine within.mono ?_ ?_ <;> push_cast
  · linarith [Int.lt_floor_add_one most]
  · linarith [Int.ceil_lt_add_one most]

/-- The weights that a row is given are finite and not negative, and one is positive. -/
theorem weights_values : (∀ weight ∈ (logSoftmax row).map exp, ∃ e, HasValue weight e ∧ 0 ≤ e) ∧
    ∃ weight ∈ (logSoftmax row).map exp, 0 < weight := by
  obtain ⟨most, top, member, above, positive, small⟩ := largest_within some range
  obtain ⟨t, total, least, greatest⟩ := logTotal_within some range top
  have bounds : Bounds .binary32 (-2 ^ 23) 65 := bounds_of_sound (by decide)
  have value {score : Float32} {v : ℚ} (has : HasValue score v) (positive' : 0 ≤ v) (below : v ≤ most) :
      ∃ e, HasValue (exp (score - logTotal row)) e ∧ 0 ≤ e ∧ (v = most → 0 < e) := by
    obtain ⟨d, difference, nearest⟩ := has.sub_near total bounds (by linarith) (by linarith)
    have upper : d ≤ 65 := nearest.le bounds.high_exact (by linarith)
    obtain ⟨e, valued, nonneg, -, floor⟩ := exp_value difference (by linarith)
    refine ⟨e, valued, nonneg, ?_⟩
    rintro rfl
    have lower : -65 ≤ d := nearest.ge (exact_of_plain (by decide)) (by linarith)
    have floor := floor (-65) (by norm_num) (by norm_num) (by exact_mod_cast lower)
    exact (by positivity : (0 : ℚ) < 2 ^ (2 * (-65) - 1 : ℤ)).trans_le floor
  constructor
  · intro weight listed
    rw [logSoftmax, List.map_map] at listed
    obtain ⟨score, member, rfl⟩ := List.mem_map.mp listed
    obtain ⟨v, has, positive', -⟩ := range score member
    obtain ⟨e, valued, nonneg, -⟩ := value has positive' (above score member v has)
    exact ⟨e, valued, nonneg⟩
  · obtain ⟨e, valued, -, above⟩ := value top positive le_rfl
    refine ⟨exp (largest row - logTotal row), ?_, (lt_iff_lt hasValue_zero valued).mpr (above rfl)⟩
    rw [logSoftmax, List.map_map]
    exact List.mem_map_of_mem (f := fun score => exp (score - logTotal row)) member

end Row

end SlotServe.Sampling
