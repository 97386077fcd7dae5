import Mathlib.Order.Bounds.Basic
import SlotServe.Proofs.Block.Table

/-! How many blocks a table wants before further tokens fit. A table keeps the block size that it began
with, and with a block size the answer is the least number that makes room, also where the table holds
more blocks than its tokens take. A blank table has no block size, and no number of blocks helps it. -/
namespace SlotServe.BlockTable

/-- The tables that come from `start` when it takes up at least the blocks that it asked for, in any
order with giving all of them back. -/
inductive Arises (start : BlockTable) : BlockTable → Prop
  | start : Arises start start
  | extended {table : BlockTable} {blocks : List Nat} {count needed : Nat} (arises : Arises start table)
      (counted : table.blocksNeeded count = .ok needed) (enough : needed ≤ blocks.length) :
      Arises start (left (extend blocks count table))
  | cleared {table : BlockTable} (arises : Arises start table) : Arises start table.cleared

variable {start table : BlockTable} {count : Nat}

theorem blockSize_extend (table : BlockTable) (blocks : List Nat) (count : Nat) :
    (left (extend blocks count table)).blockSize = table.blockSize := by
  unfold extend
  dsimp only
  split
  · rfl
  · split
    · rfl
    · split <;> rfl

theorem Arises.blockSize_eq (arises : Arises start table) : table.blockSize = start.blockSize := by
  induction arises with
  | start => rfl
  | extended _ _ _ ih => exact (blockSize_extend ..).trans ih
  | cleared _ ih => exact ih

/-- With a block size the shortage is the rounded-up count of tokens, less the blocks held. -/
theorem wanted_isLeast (sized : 0 < table.blockSize) (some : 0 < count) :
    IsLeast {further | table.numTokens + count ≤ (table.blocks.length + further) * table.blockSize}
      (table.wanted count) := by
  have rounded (further : Nat) :
      table.numTokens + count ≤ (table.blocks.length + further) * table.blockSize ↔ table.wanted count ≤ further := by
    rw [← Size.groups_le_iff sized, wanted, if_neg (Nat.ne_of_gt some)]
    omega
  exact ⟨(rounded _).mpr (Nat.le_refl _), fun further enough => (rounded further).mp enough⟩

theorem blocksNeeded_unsized (unsized : table.blockSize = 0) (some : 0 < count)
    (countable : table.numTokens + count < Size.limit) : table.blocksNeeded count = .error .divisionByZero := by
  simp only [blocksNeeded, if_neg (Nat.ne_of_gt some), Size.add?, if_pos countable, if_pos unsized]

/-- A table counts the further blocks that it wants, and for some tokens they are the fewest that make
room, exactly unless it began blank and is to store a token. Then the division by its block size fails. -/
theorem blocksNeeded_least_iff (made : start = blank ∨ ∃ blockSize, start = ofBlockSize blockSize)
    (arises : Arises start table) (countable : table.numTokens + count < Size.limit) :
    ((∃ needed, table.blocksNeeded count = .ok needed ∧ (0 < count →
        IsLeast {further | table.numTokens + count ≤ (table.blocks.length + further) * max table.blockSize 1}
          needed)) ↔ (start = blank → count = 0)) ∧
      (start = blank → 0 < count → table.blocksNeeded count = .error .divisionByZero) := by
  have kept := arises.blockSize_eq
  have fails (began : start = blank) (some : 0 < count) : table.blocksNeeded count = .error .divisionByZero :=
    blocksNeeded_unsized (kept.trans (began ▸ rfl)) some countable
  refine ⟨⟨?_, ?_⟩, fails⟩
  · rintro ⟨needed, counted, -⟩ began
    by_contra some
    rw [fails began (Nat.pos_of_ne_zero some)] at counted
    cases counted
  · intro unblank
    rcases made with began | ⟨blockSize, rfl⟩
    · have none := unblank began
      exact ⟨0, by rw [blocksNeeded, if_pos none], fun some => by omega⟩
    · have sized : 0 < table.blockSize := kept ▸ Nat.lt_of_lt_of_le Nat.one_pos (Nat.le_max_right ..)
      refine ⟨table.wanted count, blocksNeeded_sized sized countable, fun some => ?_⟩
      rw [Nat.max_eq_left sized]
      exact wanted_isLeast sized some

/-- A table that was given three blocks for one token, at a block size that is raised to one. -/
theorem blocksNeeded_least_overfull :
    let table := left (extend [5, 6, 7] 1 (ofBlockSize 0))
    Arises (ofBlockSize 0) table ∧ table.numTokens + 4 < Size.limit ∧
      ∃ needed, table.blocksNeeded 4 = .ok needed ∧ (0 < 4 →
        IsLeast {further | table.numTokens + 4 ≤ (table.blocks.length + further) * max table.blockSize 1}
          needed) := by
  have counted : (ofBlockSize 0).blocksNeeded 1 = .ok 1 := by decide
  have arises : Arises (ofBlockSize 0) (left (extend [5, 6, 7] 1 (ofBlockSize 0))) :=
    .extended .start counted (by decide)
  have countable : (left (extend [5, 6, 7] 1 (ofBlockSize 0))).numTokens + 4 < Size.limit := by decide
  exact ⟨arises, countable, (blocksNeeded_least_iff (.inr ⟨0, rfl⟩) arises countable).1.mpr (by decide)⟩

/-- A blank table cannot say how many blocks one token wants. -/
theorem blank_counts_no_blocks :
    Arises blank blank ∧ blank.numTokens + 1 < Size.limit ∧
      blank.blocksNeeded 1 = .error .divisionByZero ∧ ∀ needed, blank.blocksNeeded 1 ≠ .ok needed := by
  have fails : blank.blocksNeeded 1 = .error .divisionByZero := by decide
  exact ⟨.start, by decide, fails, by simp [fails]⟩

end SlotServe.BlockTable
