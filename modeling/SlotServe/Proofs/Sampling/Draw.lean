import SlotServe.Proofs.Engine.Successor

/-! The tokens that are chosen from a row of scores, by the highest score or by a draw, are positions of
that row. -/
namespace SlotServe

theorem bestFrom_lt {α : Type} (better : α → α → Bool) (best : α) {found place : Nat} {entries : List α}
    (inside : found < place + entries.length) :
    bestFrom better best found place entries < place + entries.length := by
  induction entries generalizing best found place with
  | nil => exact inside
  | cons entry rest ih =>
    rw [List.length_cons, Nat.add_comm rest.length, ← Nat.add_assoc] at inside ⊢
    rw [bestFrom]
    split
    · exact ih entry (by omega)
    · exact ih best inside

theorem bestToken_lt {row : List UInt32} (some : row ≠ []) : (bestToken row).toNat < row.length := by
  refine Nat.lt_of_le_of_lt (UInt32.toNat_ofNat.trans_le (Nat.mod_le _ _)) ?_
  obtain ⟨first, rest, rfl⟩ := List.exists_cons_of_ne_nil some
  rw [List.length_cons, Nat.add_comm, ← List.length_map Float32.ofBits]
  exact bestFrom_lt _ (Float32.ofBits first) (by omega)

theorem TransitionTable.Square.successor_lt {table : TransitionTable} {vocabulary : Nat} {cells : List UInt32}
    (square : table.Square vocabulary cells) {token next : UInt32} (ok : table.successor token = .ok next) :
    next.toNat < vocabulary := by
  obtain ⟨scores, looked, -⟩ := except_links ok
  have inside := square.rowsOf_inside looked token (by simp)
  obtain rfl := Except.ok.inj ((square.successor_eq inside).symm.trans ok)
  have single : ∀ other ∈ [token], other.toNat < vocabulary := by simpa using inside
  have width := square.ofWidth single (scoreRow vocabulary cells token) (by simp)
  have some : scoreRow vocabulary cells token ≠ [] := by
    rw [List.ne_nil_iff_length_pos, width]
    omega
  exact (bestToken_lt some).trans_eq width

namespace Sampling

theorem landing_lt (target : Float32) {found place : Nat} {weights : List Float32}
    (inside : found < place + weights.length) : landing target found place weights < place + weights.length := by
  induction weights generalizing target found place with
  | nil => exact inside
  | cons weight rest ih =>
    rw [List.length_cons, Nat.add_comm rest.length, ← Nat.add_assoc] at inside ⊢
    rw [landing]
    split
    · exact ih target inside
    · split
      · omega
      · exact ih _ (by omega)

namespace Candidates

variable {candidates : Candidates}

theorem draw_lt (some : candidates.weights ≠ []) (stream : Random.WordStream) :
    (candidates.draw stream).1.token.toNat < candidates.weights.length := by
  refine Nat.lt_of_le_of_lt (UInt32.toNat_ofNat.trans_le (Nat.mod_le _ _)) ?_
  have positive := List.length_pos_iff.mpr some
  have landed : landing (stream.nextUnit.1 * sum candidates.weights) 0 0 candidates.weights <
      0 + candidates.weights.length := landing_lt _ (by omega)
  rwa [Nat.zero_add] at landed

/-- Each of several draws is a draw from some state of the stream. -/
theorem drawMany_each {P : Draw → Prop} (each : ∀ stream, P (candidates.draw stream).1) (count : Nat)
    (stream : Random.WordStream) : ∀ draw ∈ (candidates.drawMany count stream).1, P draw := by
  induction count generalizing stream with
  | zero => simp [drawMany]
  | succ count ih =>
    intro draw member
    rcases List.mem_cons.mp member with rfl | later
    · exact each stream
    · exact ih _ draw later

theorem drawMany_lt (some : candidates.weights ≠ []) (count : Nat) (stream : Random.WordStream) :
    ∀ draw ∈ (candidates.drawMany count stream).1, draw.token.toNat < candidates.weights.length :=
  drawMany_each (draw_lt some) count stream

theorem length_weights (row : List Float32) (parameters : Parameters) :
    (ofRow row parameters).weights.length = row.length := by
  unfold ofRow
  split
  · simp [ofBest, keepOnly]
  · simp [keepOnly, logSoftmax]

end Candidates

end Sampling

end SlotServe
