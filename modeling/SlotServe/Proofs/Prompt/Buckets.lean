import SlotServe.Prompt.Request

/-! The buckets that an executor accepts: those of the list that are no zero and stay below its limit, each of
them once and in ascending order. A prompt of a bucket's length need not be addressable. -/
namespace SlotServe

variable {size bucket limit : Nat} {sizes buckets : List Nat}

theorem checkLength_ok {length : Nat} : checkLength length = .ok () ↔ Size.addressable length 4 = true := by
  unfold checkLength
  split
  next addressable => exact iff_of_true rfl addressable
  next excess => exact iff_of_false nofun excess

theorem mem_insertSize : bucket ∈ insertSize size sizes ↔ bucket = size ∨ bucket ∈ sizes := by
  induction sizes with
  | nil => simp [insertSize]
  | cons first rest ih =>
    unfold insertSize
    split
    next => exact List.mem_cons
    next =>
      split
      next same =>
        rw [same, List.mem_cons]
        exact or_self_left.symm
      next => rw [List.mem_cons, ih, List.mem_cons, or_left_comm]

theorem insertSize_ascending (ascending : sizes.Pairwise (· < ·)) : (insertSize size sizes).Pairwise (· < ·) := by
  induction sizes with
  | nil => exact List.pairwise_singleton _ _
  | cons first rest ih =>
    obtain ⟨least, later⟩ := List.pairwise_cons.mp ascending
    unfold insertSize
    split
    next smaller =>
      refine List.pairwise_cons.mpr ⟨fun other member => ?_, ascending⟩
      rcases List.mem_cons.mp member with rfl | member
      · exact smaller
      · exact Nat.lt_trans smaller (least other member)
    next notSmaller =>
      split
      next => exact ascending
      next different =>
        refine List.pairwise_cons.mpr ⟨fun other member => ?_, ih later⟩
        rcases mem_insertSize.mp member with rfl | member
        · omega
        · exact least other member

theorem mem_bucketsUpTo : bucket ∈ bucketsUpTo buckets limit ↔ bucket ∈ buckets ∧ 0 < bucket ∧ bucket ≤ limit := by
  have listed (sizes : List Nat) : bucket ∈ sizes.foldr insertSize [] ↔ bucket ∈ sizes := by
    induction sizes with
    | nil => rfl
    | cons size rest ih => rw [List.foldr_cons, mem_insertSize, ih, List.mem_cons]
  rw [bucketsUpTo, listed, List.mem_filter, Bool.and_eq_true, decide_eq_true_eq, decide_eq_true_eq]

theorem bucketsUpTo_ascending (buckets : List Nat) (limit : Nat) : (bucketsUpTo buckets limit).Pairwise (· < ·) := by
  unfold bucketsUpTo
  generalize (buckets.filter fun bucket => 0 < bucket && bucket ≤ limit) = sizes
  induction sizes with
  | nil => exact .nil
  | cons size rest ih => exact insertSize_ascending ih

end SlotServe
