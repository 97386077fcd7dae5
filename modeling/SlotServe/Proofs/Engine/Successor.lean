import Mathlib.Data.List.Chain
import Mathlib.Data.List.Forall2
import SlotServe.Engine.Table
import SlotServe.Proofs.Outcome
import SlotServe.Proofs.Tensor.Matrix

/-! The token that follows another one under a transition table. Without a sampler the choice for
several tokens at once is the choice for each of them alone. -/
namespace SlotServe

namespace TransitionTable

/-- The first of the highest scores in the row of a token. -/
def successor (table : TransitionTable) (token : UInt32) : Except Fault UInt32 := do
  let scores ← table.rowsOf [token]
  let chosen ← ofTensor (Sampling.greedyTokens scores)
  match chosen.tokens with
  | next :: _ => return next
  | [] => throw (.defect .outOfBounds)

structure Square (table : TransitionTable) (vocabulary : Nat) (cells : List UInt32) : Prop where
  scores : table.scores = ⟨[vocabulary, vocabulary], .f32 cells⟩
  full : cells.length = vocabulary * vocabulary

end TransitionTable

def scoreRow (vocabulary : Nat) (cells : List UInt32) (token : UInt32) : List UInt32 :=
  (cells.drop (token.toNat * vocabulary)).take vocabulary

def bestToken (row : List UInt32) : UInt32 :=
  UInt32.ofNat (bestIndex (Extreme.replaces .largest) (row.map Float32.ofBits))

theorem greedyTokens_eq {rows : List (List UInt32)} {width : Nat} (uniform : OfWidth width rows) :
    Sampling.greedyTokens ⟨[rows.length, width], .f32 rows.flatten⟩ =
      if width = 0 ∨ rows.length = 0 then .error .empty
      else .ok ⟨[rows.length], .u32 (rows.map bestToken)⟩ := by
  unfold Sampling.greedyTokens Tensor.choose
  simp only [List.getLast?_cons_cons, List.getLast?_singleton, List.dropLast_cons_cons,
    List.dropLast_singleton, volume, Nat.mul_one, Cells.choose, uniform.pieces_flatten, List.map_map]
  rfl

theorem greedyTokens_row {row : List UInt32} (some : row ≠ []) :
    Sampling.greedyTokens ⟨[1, row.length], .f32 row⟩ = .ok ⟨[1], .u32 [bestToken row]⟩ := by
  have width : OfWidth row.length [row] := by simp [OfWidth]
  have scan := greedyTokens_eq width
  rwa [if_neg (by simpa using some), List.flatten_singleton] at scan

theorem pickTokens_row {row : List UInt32} (some : row ≠ []) :
    pickTokens ⟨[1, row.length], .f32 row⟩ none = .ok [bestToken row] := by
  unfold pickTokens
  rw [greedyTokens_row some]
  rfl

namespace TransitionTable.Square

variable {table : TransitionTable} {vocabulary : Nat} {cells : List UInt32} (square : table.Square vocabulary cells)
  {tokens next : List UInt32} {scores : Tensor}

include square

theorem ofWidth (inside : ∀ token ∈ tokens, token.toNat < vocabulary) :
    OfWidth vocabulary (tokens.map (scoreRow vocabulary cells)) := by
  refine ofWidth_map fun token member => ?_
  have row : (token.toNat + 1) * vocabulary ≤ vocabulary * vocabulary :=
    Nat.mul_le_mul_right vocabulary (inside token member)
  rw [scoreRow, List.length_take, List.length_drop, square.full]
  rw [Nat.succ_mul] at row
  omega

theorem vocabSize_eq : table.vocabSize = vocabulary := by
  rw [TransitionTable.vocabSize, square.scores]
  rfl

theorem rowsOf_inside (ok : table.rowsOf tokens = .ok scores) :
    ∀ token ∈ tokens, token.toNat < vocabulary := by
  unfold TransitionTable.rowsOf at ok
  rw [square.vocabSize_eq] at ok
  split at ok
  next => cases ok
  next none =>
    intro token member
    simpa using List.find?_eq_none.mp none token member

theorem rowsOf_eq (inside : ∀ token ∈ tokens, token.toNat < vocabulary) :
    table.rowsOf tokens = .ok ⟨[(tokens.map (scoreRow vocabulary cells)).length, vocabulary],
      .f32 (tokens.map (scoreRow vocabulary cells)).flatten⟩ := by
  have none : tokens.find? (fun token => vocabulary ≤ token.toNat) = none := by
    refine List.find?_eq_none.mpr fun token member => ?_
    simpa using inside token member
  have all : (tokens.map UInt32.toNat).all (· < vocabulary) = true := by
    simpa using inside
  have rows : tokens.map (scoreRow vocabulary cells) =
      (tokens.map UInt32.toNat).map fun row => (cells.drop (row * vocabulary)).take vocabulary := by
    rw [List.map_map]
    rfl
  unfold TransitionTable.rowsOf
  rw [square.vocabSize_eq, none, square.scores]
  simp only [Tensor.selectRows, if_pos all, Cells.rearrange, volume, Nat.mul_one, rows, List.flatMap_def,
    List.length_map]
  rfl

theorem rowsOf_single {token : UInt32} (inside : token.toNat < vocabulary) :
    table.rowsOf [token] = .ok ⟨[1, vocabulary], .f32 (scoreRow vocabulary cells token)⟩ := by
  have inside : ∀ other ∈ [token], other.toNat < vocabulary := by simpa using inside
  have looked := square.rowsOf_eq inside
  rwa [List.map_singleton, List.flatten_singleton] at looked

theorem successor_eq {token : UInt32} (inside : token.toNat < vocabulary) :
    table.successor token = .ok (bestToken (scoreRow vocabulary cells token)) := by
  have inside : ∀ other ∈ [token], other.toNat < vocabulary := by simpa using inside
  have choice := greedyTokens_eq (square.ofWidth inside)
  rw [if_neg (by simp; omega)] at choice
  unfold TransitionTable.successor
  rw [square.rowsOf_eq inside]
  change (ofTensor (Sampling.greedyTokens _) >>= _) = _
  rw [choice]
  rfl

/-- Without a sampler, the tokens for several rows are the tokens for each of them. -/
theorem pickTokens_successor (looked : table.rowsOf tokens = .ok scores)
    (picked : pickTokens scores none = .ok next) :
    List.Forall₂ (fun token following => table.successor token = .ok following) tokens next := by
  have inside := square.rowsOf_inside looked
  rw [square.rowsOf_eq inside] at looked
  obtain rfl := Except.ok.inj looked
  obtain ⟨count, counted, picked⟩ := except_links picked
  obtain ⟨chosen, chose, picked⟩ := except_links picked
  have greedy : Sampling.greedyTokens _ = .ok chosen := ofTensor_success chose
  rw [greedyTokens_eq (square.ofWidth inside)] at greedy
  split at greedy
  · cases greedy
  · obtain rfl := Except.ok.inj greedy
    dsimp only at picked
    split at picked
    · cases picked
    · obtain rfl := Except.ok.inj picked
      change List.Forall₂ _ tokens ((tokens.map (scoreRow vocabulary cells)).map bestToken)
      rw [List.map_map, List.forall₂_map_right_iff, List.forall₂_same]
      exact fun token member => square.successor_eq (inside token member)

theorem successor_of_picked {last token : UInt32} (looked : table.rowsOf [last] = .ok scores)
    (picked : pickTokens scores none = .ok [token]) : table.successor last = .ok token := by
  obtain ⟨_, _, follows, -, same⟩ := List.forall₂_cons_left_iff.mp (square.pickTokens_successor looked picked)
  cases same
  exact follows

end TransitionTable.Square

namespace TransitionTable

def stream (table : TransitionTable) : Nat → UInt32 → Except Fault (List UInt32)
  | 0, _ => .ok []
  | 1, first => .ok [first]
  | count + 2, first => do
    let next ← table.successor first
    return first :: (← table.stream (count + 1) next)

theorem length_of_stream {table : TransitionTable} {count : Nat} {first : UInt32} {tokens : List UInt32}
    (ok : table.stream count first = .ok tokens) : tokens.length = count := by
  fun_induction table.stream count first generalizing tokens with
  | case1 | case2 =>
    cases ok
    rfl
  | case3 count first ih =>
    obtain ⟨next, _, ok⟩ := except_links ok
    obtain ⟨rest, following, ok⟩ := except_links ok
    cases ok
    rw [List.length_cons, ih _ following]

structure Derives (table : TransitionTable) (first : UInt32) (tokens : List UInt32) : Prop where
  starts : tokens.head? = some first
  linked : tokens.IsChain fun token next => table.successor token = .ok next

namespace Derives

variable {table : TransitionTable} {first : UInt32} {tokens : List UInt32}

theorem single (table : TransitionTable) (first : UInt32) : table.Derives first [first] :=
  ⟨rfl, .singleton first⟩

theorem ends (derives : table.Derives first tokens) : ∃ last, tokens.getLast? = some last := by
  obtain ⟨rest, rfl⟩ := List.head?_eq_some_iff.mp derives.starts
  exact ⟨_, List.getLast?_cons⟩

theorem push (derives : table.Derives first tokens) {last next : UInt32} (ends : tokens.getLast? = some last)
    (follows : table.successor last = .ok next) : table.Derives first (tokens ++ [next]) := by
  have some : tokens ≠ [] := by
    rintro rfl
    cases ends
  refine ⟨?_, derives.linked.append (.singleton next) ?_⟩
  · rw [List.head?_append_of_ne_nil _ some, derives.starts]
  · intro token final other same
    obtain rfl := Option.some.inj (ends.symm.trans final)
    obtain rfl := Option.some.inj same
    exact follows

theorem stream_eq (derives : table.Derives first tokens) {count : Nat} (enough : count ≤ tokens.length) :
    table.stream count first = .ok (tokens.take count) := by
  fun_induction table.stream count first generalizing tokens with
  | case1 => rfl
  | case2 =>
    obtain ⟨rest, rfl⟩ := List.head?_eq_some_iff.mp derives.starts
    rfl
  | case3 count first ih =>
    obtain ⟨rest, rfl⟩ := List.head?_eq_some_iff.mp derives.starts
    match rest, derives.linked, enough with
    | next :: rest, linked, enough =>
      rw [List.isChain_cons_cons] at linked
      have following := ih next ⟨rfl, linked.2⟩ (Nat.le_of_succ_le_succ enough)
      rw [linked.1]
      change (table.stream (count + 1) next >>= _) = _
      rw [following]
      rfl

end Derives

end TransitionTable

end SlotServe
