import SlotServe.Proofs.Binary32.Order
import SlotServe.Proofs.Sampling.Draw

/-! Ranks by falling weight. All positions of a row are ranked, a heavier one in the total order before a lighter
one and ties as they stand in the row. -/
namespace SlotServe.Sampling

/-- The weight at a position comes before that at another: it is larger in the total order, or the two are the same
and the position comes first. -/
def Ahead (weights : List Float32) (first second : Nat) : Prop :=
  Binary32.place (weights.getD second 0) < Binary32.place (weights.getD first 0) ∨
    Binary32.place (weights.getD second 0) = Binary32.place (weights.getD first 0) ∧ first < second

structure RankedFirst (weights : List Float32) (top : Nat) : Prop where
  inside : top < weights.length
  ahead : ∀ other < weights.length, other ≠ top → Ahead weights top other

variable {weights : List Float32}

theorem getD_of_getElem? {position : Nat} {weight : Float32} (entry : weights[position]? = some weight) :
    weights.getD position 0 = weight := by
  rw [List.getD, entry]
  rfl

/-- The first rank has one of the highest weights. -/
theorem RankedFirst.highest {top : Nat} (first : RankedFirst weights top) :
    ∀ weight ∈ weights, Binary32.key weight ≤ Binary32.key (weights.getD top 0) := by
  intro weight member
  obtain ⟨other, entry⟩ := List.mem_iff_getElem?.mp member
  rw [← getD_of_getElem? entry]
  by_cases same : other = top
  · rw [same]
  · have order := first.ahead other (List.getElem?_eq_some_iff.mp entry).1 same
    refine Int.not_lt.mp fun more => ?_
    have less := Binary32.place_lt_of_key_lt more
    unfold Ahead at order
    omega

theorem mem_zipIdx_getD {weight : Float32 × Nat} (member : weight ∈ weights.zipIdx) :
    weights.getD weight.2 0 = weight.1 :=
  getD_of_getElem? (List.mem_zipIdx_iff_getElem?.mp member)

theorem rankDescending_perm (weights : List Float32) :
    (rankDescending weights).Perm (List.range weights.length) := by
  have sorted := (List.mergeSort_perm weights.zipIdx fun left right =>
    decide (Binary32.place right.1 ≤ Binary32.place left.1)).map (·.2)
  rwa [List.zipIdx_map_snd, ← List.range_eq_range'] at sorted

theorem length_rankDescending (weights : List Float32) : (rankDescending weights).length = weights.length :=
  (rankDescending_perm weights).length_eq.trans List.length_range

section Falling

variable {α : Type} (key : α → Nat) (items : List α)

theorem pairwise_falling : (items.mergeSort fun left right => key right ≤ key left).Pairwise
    fun left right => key right ≤ key left := by
  refine (List.pairwise_mergeSort ?_ ?_ items).imp of_decide_eq_true
  · simp only [decide_eq_true_eq]
    omega
  · simp only [Bool.or_eq_true, decide_eq_true_eq]
    omega

/-- Items of one key keep their order. -/
theorem filter_falling (value : Nat) : (items.mergeSort fun left right => key right ≤ key left).filter (key · = value) =
    items.filter (key · = value) := by
  have level : (items.filter (key · = value)).Pairwise
      fun left right => decide (key right ≤ key left) = true := by
    refine List.pairwise_of_forall_mem_list fun left first right second => ?_
    have left_eq := of_decide_eq_true (List.mem_filter.mp first).2
    have right_eq := of_decide_eq_true (List.mem_filter.mp second).2
    exact decide_eq_true (right_eq.trans left_eq.symm).le
  have within : (items.filter (key · = value)).Sublist (items.mergeSort fun left right => key right ≤ key left) := by
    refine List.sublist_mergeSort ?_ ?_ level List.filter_sublist
    · simp only [decide_eq_true_eq]
      omega
    · simp only [Bool.or_eq_true, decide_eq_true_eq]
      omega
  have again := within.filter (key · = value)
  rw [List.filter_filter, List.filter_congr fun item _ => Bool.and_self _] at again
  exact (again.eq_of_length ((List.mergeSort_perm _ _).filter _).length_eq.symm).symm

/-- Falling keys, ties in any order that the items were in. -/
theorem pairwise_falling_ties {R : α → α → Prop} (order : items.Pairwise R) :
    (items.mergeSort fun left right => key right ≤ key left).Pairwise
      fun left right => key right < key left ∨ key right = key left ∧ R left right := by
  refine List.pairwise_iff_forall_sublist.mpr fun {left right} pair => ?_
  have falling := List.pairwise_iff_forall_sublist.mp (pairwise_falling key items) pair
  refine falling.lt_or_eq.imp_right fun same => ⟨same, ?_⟩
  have tied := pair.filter (key · = key left)
  rw [filter_falling, List.filter_eq_self.mpr (by simp [same])] at tied
  exact List.pairwise_iff_forall_sublist.mp order (tied.trans List.filter_sublist)

end Falling

theorem rankDescending_ahead (weights : List Float32) : (rankDescending weights).Pairwise (Ahead weights) := by
  have positions : weights.zipIdx.Pairwise (·.2 < ·.2) := by
    rw [← List.pairwise_map (f := Prod.snd), List.zipIdx_map_snd]
    exact List.pairwise_lt_range' 1
  refine List.pairwise_map.mpr ?_
  refine (pairwise_falling_ties (fun item : Float32 × Nat => Binary32.place item.1) _ positions).imp_of_mem ?_
  intro first second member member' order
  have present := mem_zipIdx_getD ((List.mergeSort_perm _ _).mem_iff.mp member)
  have present' := mem_zipIdx_getD ((List.mergeSort_perm _ _).mem_iff.mp member')
  unfold Ahead
  rwa [present, present']

theorem rankDescending_head (some : weights ≠ []) :
    ∃ top rest, rankDescending weights = top :: rest ∧ RankedFirst weights top := by
  have nonempty : rankDescending weights ≠ [] := by
    rw [List.ne_nil_iff_length_pos, length_rankDescending]
    exact List.length_pos_iff.mpr some
  obtain ⟨top, rest, eq⟩ := List.exists_cons_of_ne_nil nonempty
  have members (position : Nat) : position ∈ top :: rest ↔ position < weights.length := by
    rw [← eq, (rankDescending_perm weights).mem_iff, List.mem_range]
  refine ⟨top, rest, eq, ⟨(members top).mp List.mem_cons_self, fun other inside distinct => ?_⟩⟩
  have order := rankDescending_ahead weights
  rw [eq] at order
  exact List.rel_of_pairwise_cons order ((List.mem_cons.mp ((members other).mpr inside)).resolve_left distinct)

end SlotServe.Sampling
