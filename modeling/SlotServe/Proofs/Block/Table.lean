import SlotServe.Block.Table
import SlotServe.Proofs.Outcome

/-! Growth of the block table of one row. A table holds as many blocks as its tokens need, neither
more nor fewer, and takes up exactly the further blocks that new tokens want. -/
namespace SlotServe

theorem Size.groups_succ {size : Nat} (positive : 0 < size) (count : Nat) :
    groups (count + 1) size = groups count size + if count % size = 0 then 1 else 0 := by
  have next : count + 1 + size - 1 = count + size - 1 + 1 := by omega
  have whole : count + size - 1 + 1 = count + size := by omega
  have divides : size ∣ count + size ↔ count % size = 0 := by
    rw [Nat.dvd_iff_mod_eq_zero, Nat.add_mod_right]
  rw [groups, next, Nat.succ_div, whole]
  simp only [divides, groups]

namespace BlockTable

def grown (table : BlockTable) (granted : List Nat) (count : Nat) : BlockTable :=
  ⟨table.blocks ++ granted, table.numTokens + count, table.blockSize⟩

def wanted (table : BlockTable) (count : Nat) : Nat :=
  if count = 0 then 0 else Size.groups (table.numTokens + count) table.blockSize - table.blocks.length

def isFull (table : BlockTable) : Bool := table.numTokens % table.blockSize == 0

theorem blocksNeeded_success {table : BlockTable} {count needed : Nat}
    (ok : table.blocksNeeded count = .ok needed) :
    needed = table.wanted count ∧
      (count ≠ 0 → table.numTokens + count < Size.limit ∧ 0 < table.blockSize) := by
  unfold blocksNeeded at ok
  unfold wanted
  split at ok
  next none => simp [none, Except.ok.inj ok]
  next some =>
    unfold Size.add? at ok
    split at ok
    next overflow => cases ok
    next total sum =>
      split at ok
      next zero => cases ok
      next positive =>
        obtain ⟨below, rfl⟩ := by simpa using sum
        exact ⟨by simp [some, ← Except.ok.inj ok], fun _ => ⟨below, Nat.pos_of_ne_zero positive⟩⟩

theorem blocksNeeded_sized {table : BlockTable} {count : Nat} (sized : 0 < table.blockSize)
    (below : table.numTokens + count < Size.limit) : table.blocksNeeded count = .ok (table.wanted count) := by
  unfold blocksNeeded wanted
  split
  · rfl
  · simp only [Size.add?, if_pos below, if_neg (Nat.ne_of_gt sized)]

theorem grown_nil (table : BlockTable) : table.grown [] 0 = table := by
  cases table
  simp [grown]

theorem cleared_grown (table : BlockTable) (granted : List Nat) (count : Nat) :
    (table.grown granted count).cleared = table.cleared := rfl

theorem grown_ne_nil {table : BlockTable} {granted : List Nat} {count : Nat} (some : count ≠ 0)
    (positive : 0 < table.blockSize) (enough : granted.length = table.wanted count) :
    (table.grown granted count).blocks ≠ [] := by
  intro empty
  obtain ⟨none, rfl⟩ := List.append_eq_nil_iff.mp empty
  have zero : Size.groups (table.numTokens + count) table.blockSize ≤ 0 := by
    simp only [wanted, if_neg some, none, List.length_nil] at enough
    omega
  rw [Size.groups_le_iff positive] at zero
  omega

theorem extend_eq (table : BlockTable) (granted : List Nat) (count : Nat)
    (below : table.numTokens + count < Size.limit) :
    extend granted count table =
      let grown := table.grown granted count
      match Size.mul? grown.blocks.length grown.blockSize with
      | none => .error .overflow grown
      | some room => if room < grown.numTokens then .error .overfilled grown else .ok () grown := by
  simp only [extend, Size.add?, if_pos below, grown]
  rfl

/-- Whatever the end, the table has taken up the blocks and the tokens. -/
theorem left_extend (table : BlockTable) (granted : List Nat) (count : Nat)
    (below : count ≠ 0 → table.numTokens + count < Size.limit) :
    left (extend granted count table) = table.grown granted count := by
  by_cases countable : table.numTokens + count < Size.limit
  · rw [extend_eq table granted count countable]
    dsimp only
    split
    · rfl
    · split <;> rfl
  · have zero : count = 0 := Classical.not_not.mp fun some => countable (below some)
    subst count
    have uncounted : Size.add? table.numTokens 0 = none := if_neg countable
    simp only [extend, uncounted]
    rfl

/-- The table holds exactly the blocks that its tokens need. -/
structure Snug (blockSize : Nat) (table : BlockTable) : Prop where
  sized : table.blockSize = max blockSize 1
  exact : table.blocks.length = Size.groups table.numTokens (max blockSize 1)

/-- After `count` more tokens the table, rounded up to whole blocks, still has a size. -/
def Storable (table : BlockTable) (count : Nat) : Prop :=
  Size.groups (table.numTokens + count) table.blockSize * table.blockSize < Size.limit

theorem snug_ofBlockSize (blockSize : Nat) : (ofBlockSize blockSize).Snug blockSize :=
  ⟨rfl, (Size.groups_zero _).symm⟩

namespace Snug

variable {blockSize : Nat} {table : BlockTable}

theorem cleared (snug : table.Snug blockSize) : table.cleared.Snug blockSize :=
  ⟨snug.sized, (Size.groups_zero _).symm⟩

theorem wanted_add (snug : table.Snug blockSize) (count : Nat) :
    table.blocks.length + table.wanted count =
      Size.groups (table.numTokens + count) (max blockSize 1) := by
  have grows : Size.groups table.numTokens (max blockSize 1) ≤
      Size.groups (table.numTokens + count) (max blockSize 1) :=
    Nat.div_le_div_right (by omega)
  rw [wanted, snug.sized, snug.exact]
  split
  · simp_all
  · omega

theorem grown (snug : table.Snug blockSize) {granted : List Nat} {count : Nat}
    (enough : granted.length = table.wanted count) : (table.grown granted count).Snug blockSize := by
  refine ⟨snug.sized, ?_⟩
  rw [BlockTable.grown, List.length_append, enough]
  exact snug.wanted_add count

theorem room (snug : table.Snug blockSize) :
    table.numTokens ≤ table.blocks.length * table.blockSize := by
  rw [snug.exact, snug.sized]
  exact (Size.groups_le_iff (by omega) _).mp (Nat.le_refl _)

theorem tokens_eq_zero (snug : table.Snug blockSize) (empty : table.blocks = []) :
    table.numTokens = 0 := by
  have room := snug.room
  simpa [empty] using room

theorem cleared_of_empty (snug : table.Snug blockSize) (empty : table.blocks = []) :
    table.cleared = table := by
  have none := snug.tokens_eq_zero empty
  cases table
  simp_all [BlockTable.cleared]

theorem positive (snug : table.Snug blockSize) : 0 < table.blockSize := by
  rw [snug.sized]
  omega

theorem countable (snug : table.Snug blockSize) {count : Nat} (storable : table.Storable count) :
    table.numTokens + count < Size.limit :=
  Nat.lt_of_le_of_lt ((Size.groups_le_iff snug.positive _).mp (Nat.le_refl _)) storable

theorem blocksNeeded_eq (snug : table.Snug blockSize) {count : Nat}
    (below : table.numTokens + count < Size.limit) : table.blocksNeeded count = .ok (table.wanted count) :=
  blocksNeeded_sized snug.positive below

theorem storable (snug : table.Snug blockSize) (word : blockSize < Size.limit) {count : Nat}
    (short : table.numTokens + count ≤ Size.half) : table.Storable count := by
  have one : 1 < Size.limit := by decide
  unfold Storable
  rw [snug.sized]
  exact Size.groups_mul_lt (by omega) (by omega) short

theorem extend_ok (snug : table.Snug blockSize) {granted : List Nat} {count : Nat}
    (storable : table.Storable count) (enough : granted.length = table.wanted count) :
    extend granted count table = .ok () (table.grown granted count) := by
  have after := snug.grown enough
  have exact := after.exact
  rw [← after.sized] at exact
  have whole : (table.grown granted count).blocks.length * (table.grown granted count).blockSize <
      Size.limit := by
    rw [exact]
    exact storable
  rw [extend_eq table granted count (snug.countable storable)]
  simp only [Size.mul?, if_pos whole, if_neg (Nat.not_lt.mpr after.room)]

theorem storable_of_extend (snug : table.Snug blockSize) {granted : List Nat} {count : Nat} {after : BlockTable}
    (ok : extend granted count table = .ok () after) (enough : granted.length = table.wanted count) :
    table.Storable count := by
  have blocks : (table.blocks ++ granted).length = Size.groups (table.numTokens + count) table.blockSize := by
    rw [List.length_append, enough, snug.sized]
    exact snug.wanted_add count
  unfold extend at ok
  dsimp only at ok
  split at ok
  next => cases ok
  next =>
    split at ok
    next => cases ok
    next room product =>
      unfold Size.mul? at product
      rw [blocks, Option.ite_none_right_eq_some] at product
      exact product.1

/-- One more token wants a further block just when the others fill theirs. -/
theorem wanted_one (snug : table.Snug blockSize) : table.wanted 1 = if table.isFull then 1 else 0 := by
  have grows := snug.wanted_add 1
  have positive := snug.positive
  rw [snug.exact, ← snug.sized, Size.groups_succ positive] at grows
  simpa only [isFull, beq_iff_eq] using Nat.add_left_cancel grows

theorem wanted_vacant (snug : table.Snug blockSize) (none : table.numTokens = 0) (count : Nat) :
    table.wanted count = Size.groups count (max blockSize 1) := by
  have grows := snug.wanted_add count
  rwa [snug.exact, none, Size.groups_zero, Nat.zero_add, Nat.zero_add] at grows

end Snug

end BlockTable

end SlotServe
