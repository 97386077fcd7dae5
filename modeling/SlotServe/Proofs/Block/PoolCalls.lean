import Mathlib.Data.List.Perm.Subperm
import SlotServe.Proofs.Block.Pool
import SlotServe.Proofs.Outcome

/-! Calls on the pool of cache blocks, in any order and with any ids. A call works in place and one id
at a time, so that what it wrote stays written if it fails. A release reads its whole batch before it
writes, and therefore a refused call has written nothing. Between calls the free ids are those whose
flag is down, each once, and this alone decides which calls succeed. -/
namespace SlotServe

namespace BlockPool

/-- Stack and flags tell the same: a free id is on the stack once and its flag is down. -/
structure InStep (pool : BlockPool) : Prop where
  once : pool.free.Nodup
  flags : ∀ block, block ∈ pool.free ↔ pool.inUse[block]? = some false
  counts : pool.numFree + pool.numUsed = pool.numTotal

def Offends (pool : BlockPool) (blocks : List Nat) (block : Nat) : Prop :=
  ∃ before after, blocks = before ++ block :: after ∧ before.Nodup ∧
    (∀ other ∈ before, pool.owns other = true) ∧ (pool.owns block = false ∨ block ∈ before)

variable {pool : BlockPool} {numBlocks count : Nat} {out blocks : List Nat}

theorem owns_eq_true {block : Nat} : pool.owns block = true ↔ pool.inUse[block]? = some true := by
  unfold owns
  cases pool.inUse[block]? <;> simp

theorem Accounts.inStep (accounts : pool.Accounts numBlocks out) : pool.InStep := by
  have apart := List.nodup_append.mp accounts.nodup
  refine ⟨apart.1, ?_, ?_⟩
  · intro block
    constructor
    · intro free
      have inside := accounts.lt_of_mem_free free
      have home : block ∉ out := fun away => apart.2.2 block free block away rfl
      rw [← accounts.flags block, owns_eq_true, Array.getElem?_eq_getElem inside] at home
      rw [Array.getElem?_eq_getElem inside]
      simpa using home
    · intro down
      obtain ⟨inside, _⟩ := Array.getElem?_eq_some_iff.mp down
      have home : block ∉ out := by
        rw [← accounts.flags block, owns_eq_true, down]
        simp
      have total : pool.inUse.size = numBlocks := accounts.total
      have listed : block ∈ pool.free ++ out :=
        accounts.once.mem_iff.mpr (List.mem_range.mpr (total ▸ inside))
      exact (List.mem_append.mp listed).resolve_right home
  · have free := accounts.numFree_add
    have total := accounts.total
    unfold numUsed
    omega

/-- As many blocks as asked for leave the stack, and just their flags go up. -/
theorem Accounts.owns_taken (accounts : pool.Accounts numBlocks out) (block : Nat) :
    (pool.taken count).owns block = true ↔ pool.owns block = true ∨ block ∈ pool.free.take count := by
  rw [(accounts.taken count).flags block, accounts.flags block, List.mem_append]
  exact or_comm

theorem Accounts.owns_returned (accounts : pool.Accounts numBlocks (blocks ++ out)) (block : Nat) :
    (pool.returned blocks).owns block = true ↔ pool.owns block = true ∧ block ∉ blocks := by
  have distinct := List.nodup_append.mp (List.nodup_append.mp accounts.nodup).2.1
  rw [accounts.returned.flags block, accounts.flags block, List.mem_append]
  constructor
  · intro stays
    exact ⟨.inr stays, fun back => distinct.2.2 block back block stays rfl⟩
  · rintro ⟨away, kept⟩
    exact away.resolve_left kept

/-- A batch of distinct blocks that are out can be split off from those that are out. -/
theorem Accounts.split (accounts : pool.Accounts numBlocks out) (distinct : blocks.Nodup)
    (owned : ∀ block ∈ blocks, pool.owns block = true) :
    ∃ rest, pool.Accounts numBlocks (blocks ++ rest) := by
  have among : blocks ⊆ out := fun block member => (accounts.flags block).mp (owned block member)
  obtain ⟨others, same, part⟩ := distinct.subperm among
  obtain ⟨rest, parted⟩ := part.exists_perm_append
  exact ⟨rest, accounts.perm (parted.trans (same.append_right rest))⟩

/-- The search stops at an offender when all before it is in order. -/
theorem firstUnowned_append {seen before after : List Nat} {block : Nat} (distinct : before.Nodup)
    (earlier : ∀ other ∈ before, pool.owns other = true ∧ other ∉ seen)
    (offends : pool.owns block = false ∨ block ∈ before ∨ block ∈ seen) :
    firstUnowned pool seen (before ++ block :: after) = some block := by
  induction before generalizing seen with
  | nil =>
    have caught : ¬(pool.owns block && !seen.contains block) = true := by
      rcases offends with unowned | named | passed
      · simp [unowned]
      · cases named
      · simp [passed]
    rw [List.nil_append, firstUnowned, if_neg caught]
  | cons first before ih =>
    obtain ⟨absent, distinct⟩ := List.nodup_cons.mp distinct
    have passes : (pool.owns first && !seen.contains first) = true := by
      simpa using earlier first (List.mem_cons_self ..)
    rw [List.cons_append, firstUnowned, if_pos passes]
    refine ih distinct ?_ ?_
    · intro other member
      obtain ⟨owned, unseen⟩ := earlier other (List.mem_cons_of_mem _ member)
      exact ⟨owned, List.not_mem_cons_of_ne_of_not_mem (fun same => absent (same ▸ member)) unseen⟩
    · simp only [List.mem_cons] at offends ⊢
      tauto

/-- What the search finds is an offender, and what it passes is in order. -/
theorem firstUnowned_finds (pool : BlockPool) (blocks seen : List Nat) :
    match firstUnowned pool seen blocks with
    | none => blocks.Nodup ∧ ∀ block ∈ blocks, pool.owns block = true ∧ block ∉ seen
    | some block => ∃ before after, blocks = before ++ block :: after ∧ before.Nodup ∧
        (∀ other ∈ before, pool.owns other = true ∧ other ∉ seen) ∧
          (pool.owns block = false ∨ block ∈ before ∨ block ∈ seen) := by
  induction blocks generalizing seen with
  | nil => simp [firstUnowned]
  | cons first rest ih =>
    rw [firstUnowned]
    by_cases passes : (pool.owns first && !seen.contains first) = true
    · rw [if_pos passes]
      have fine : pool.owns first = true ∧ first ∉ seen := by simpa using passes
      specialize ih (first :: seen)
      -- The rest does not name the first again, since it was seen by then.
      have onward : ∀ {passed : List Nat},
          (∀ other ∈ passed, pool.owns other = true ∧ other ∉ first :: seen) → first ∉ passed ∧
            ∀ other ∈ first :: passed, pool.owns other = true ∧ other ∉ seen := by
        intro passed earlier
        refine ⟨fun again => (earlier first again).2 (List.mem_cons_self ..), ?_⟩
        intro other member
        rcases List.mem_cons.mp member with rfl | member
        · exact fine
        · exact ⟨(earlier other member).1, List.not_mem_of_not_mem_cons (earlier other member).2⟩
      cases found : firstUnowned pool (first :: seen) rest with
      | none =>
        rw [found] at ih
        obtain ⟨absent, earlier⟩ := onward ih.2
        exact ⟨List.nodup_cons.mpr ⟨absent, ih.1⟩, earlier⟩
      | some block =>
        rw [found] at ih
        obtain ⟨before, after, rfl, distinct, earlier, offends⟩ := ih
        obtain ⟨absent, earlier⟩ := onward earlier
        refine ⟨first :: before, after, rfl, List.nodup_cons.mpr ⟨absent, distinct⟩, earlier, ?_⟩
        simp only [List.mem_cons] at offends ⊢
        tauto
    · rw [if_neg passes]
      have caught : pool.owns first = false ∨ first ∈ seen := by
        by_cases owned : pool.owns first = true
        · exact .inr (by simpa [owned] using passes)
        · exact .inl (by simpa using owned)
      exact ⟨[], rest, rfl, List.nodup_nil, by simp, caught.imp_right .inr⟩

/-- A release is refused just for its first offender. -/
theorem release_eq_error {fault : BlockFault} :
    pool.release blocks = .error fault ↔ ∃ block, fault = .notAllocated block ∧ pool.Offends blocks block := by
  constructor
  · intro refused
    have search := firstUnowned_finds pool blocks []
    unfold release at refused
    cases found : firstUnowned pool [] blocks with
    | none =>
      rw [found] at refused
      cases refused
    | some block =>
      rw [found] at refused search
      refine ⟨block, (Except.error.inj refused).symm, ?_⟩
      simpa [Offends] using search
  · rintro ⟨block, rfl, before, after, rfl, distinct, earlier, offends⟩
    have found : firstUnowned pool [] (before ++ block :: after) = some block :=
      firstUnowned_append distinct (by simpa using earlier) (by simpa using offends)
    simp only [release, found]

theorem release_eq_ok {next : BlockPool} :
    pool.release blocks = .ok next ↔
      next = pool.returned blocks ∧ blocks.Nodup ∧ ∀ block ∈ blocks, pool.owns block = true := by
  constructor
  · intro released
    have search := firstUnowned_finds pool blocks []
    unfold release at released
    cases found : firstUnowned pool [] blocks with
    | none =>
      rw [found] at released search
      exact ⟨(Except.ok.inj released).symm, search.1, fun block member => (search.2 block member).1⟩
    | some block =>
      rw [found] at released
      cases released
  · rintro ⟨rfl, distinct, owned⟩
    have found := firstUnowned_eq_none pool [] blocks owned distinct (by simp)
    simp only [release, found, returned]

/-! A call in place: what each of its writes leaves behind stays if the call fails later. -/

def flagEach (used : Bool) : List Nat → EStateM BlockFault BlockPool Unit
  | [] => pure ()
  | block :: rest => do
    modify fun pool => { pool with inUse := pool.inUse.setIfInBounds block used }
    flagEach used rest

def checkEach (seen : List Nat) : List Nat → EStateM BlockFault BlockPool Unit
  | [] => pure ()
  | block :: rest => do
    let pool ← get
    if pool.owns block && !seen.contains block then checkEach (block :: seen) rest
    else throw (.notAllocated block)

def pushEach : List Nat → EStateM BlockFault BlockPool Unit
  | [] => pure ()
  | block :: rest => do
    modify fun pool => ⟨pool.inUse.setIfInBounds block false, block :: pool.free⟩
    pushEach rest

def allocateInPlace (count : Nat) : EStateM BlockFault BlockPool (List Nat) := do
  let pool ← get
  if pool.numFree < count then throw (.outOfBlocks count pool.numFree)
  set { pool with free := pool.free.drop count }
  flagEach true (pool.free.take count)
  return pool.free.take count

def releaseInPlace (blocks : List Nat) : EStateM BlockFault BlockPool Unit := do
  checkEach [] blocks
  pushEach blocks

theorem flagEach_eq (used : Bool) (blocks : List Nat) (pool : BlockPool) :
    flagEach used blocks pool = .ok () { pool with inUse := mark used pool.inUse blocks } := by
  induction blocks generalizing pool with
  | nil => rfl
  | cons block rest ih => exact ih _

theorem checkEach_eq (seen blocks : List Nat) (pool : BlockPool) :
    checkEach seen blocks pool =
      match firstUnowned pool seen blocks with
      | none => .ok () pool
      | some block => .error (.notAllocated block) pool := by
  induction blocks generalizing seen with
  | nil => rfl
  | cons block rest ih =>
    rw [firstUnowned, checkEach, get_bind]
    by_cases passes : (pool.owns block && !seen.contains block) = true
    · rw [if_pos passes, if_pos passes]
      exact ih (block :: seen)
    · rw [if_neg passes, if_neg passes]
      rfl

theorem pushEach_eq (blocks : List Nat) (pool : BlockPool) :
    pushEach blocks pool = .ok () (pool.returned blocks) := by
  induction blocks generalizing pool with
  | nil => rfl
  | cons block rest ih =>
    refine (ih _).trans ?_
    simp [returned, mark]

theorem allocateInPlace_eq (count : Nat) (pool : BlockPool) :
    allocateInPlace count pool =
      match pool.allocate count with
      | .ok (granted, next) => .ok granted next
      | .error fault => .error fault pool := by
  rw [allocateInPlace, get_bind, allocate_eq]
  by_cases short : pool.numFree < count
  · rw [if_pos short, if_pos short]
    rfl
  · rw [if_neg short, if_neg short]
    exact bind_ok _ (flagEach_eq true (pool.free.take count) { pool with free := pool.free.drop count })

theorem releaseInPlace_eq (blocks : List Nat) (pool : BlockPool) :
    releaseInPlace blocks pool =
      match pool.release blocks with
      | .ok next => .ok () next
      | .error fault => .error fault pool := by
  have checked := checkEach_eq [] blocks pool
  unfold releaseInPlace release
  cases found : firstUnowned pool [] blocks with
  | none =>
    rw [found] at checked
    exact (bind_ok _ checked).trans (pushEach_eq blocks pool)
  | some block =>
    rw [found] at checked
    exact bind_error _ checked

end BlockPool

inductive PoolCall
  | allocate (count : Nat)
  | release (blocks : List Nat)

namespace PoolCall

def perform : PoolCall → EStateM BlockFault BlockPool (List Nat)
  | allocate count => BlockPool.allocateInPlace count
  | release blocks => do
    BlockPool.releaseInPlace blocks
    return []

def outcome (pool : BlockPool) : PoolCall → Except BlockFault (List Nat × BlockPool)
  | allocate count => pool.allocate count
  | release blocks => (pool.release blocks).map fun next => ([], next)

def afterAll (numBlocks : Nat) (calls : List PoolCall) : BlockPool :=
  calls.foldl (fun pool call => left (call.perform pool)) (BlockPool.fresh numBlocks)

theorem perform_eq (call : PoolCall) (pool : BlockPool) :
    call.perform pool =
      match call.outcome pool with
      | .ok (granted, next) => .ok granted next
      | .error fault => .error fault pool := by
  cases call with
  | allocate count => exact BlockPool.allocateInPlace_eq count pool
  | release blocks =>
    have ended := BlockPool.releaseInPlace_eq blocks pool
    simp only [perform, outcome]
    cases released : pool.release blocks with
    | ok next =>
      rw [released] at ended
      exact bind_ok _ ended
    | error fault =>
      rw [released] at ended
      exact bind_error _ ended

theorem accounts_perform {pool : BlockPool} {numBlocks : Nat} {out : List Nat}
    (accounts : pool.Accounts numBlocks out) (call : PoolCall) :
    ∃ outAfter, (left (call.perform pool)).Accounts numBlocks outAfter := by
  rw [perform_eq]
  cases answered : call.outcome pool with
  | error fault => exact ⟨out, accounts⟩
  | ok found =>
    cases call with
    | allocate count =>
      rw [outcome, BlockPool.allocate_eq] at answered
      split at answered
      · cases answered
      · cases answered
        exact ⟨_, accounts.taken count⟩
    | release blocks =>
      cases released : pool.release blocks with
      | error fault =>
        rw [outcome, released] at answered
        cases answered
      | ok next =>
        rw [outcome, released] at answered
        cases answered
        obtain ⟨rfl, distinct, owned⟩ := BlockPool.release_eq_ok.mp released
        obtain ⟨rest, parted⟩ := accounts.split distinct owned
        exact ⟨rest, parted.returned⟩

theorem accounts_afterAll (numBlocks : Nat) (calls : List PoolCall) :
    ∃ out, (afterAll numBlocks calls).Accounts numBlocks out := by
  have run : ∀ pool : BlockPool, (∃ out, pool.Accounts numBlocks out) →
      ∃ out, (calls.foldl (fun pool call => left (call.perform pool)) pool).Accounts numBlocks out := by
    induction calls with
    | nil => exact fun _ accounts => accounts
    | cons call rest ih =>
      rintro pool ⟨out, accounts⟩
      exact ih _ (accounts_perform accounts call)
  exact run _ ⟨[], BlockPool.fresh_accounts numBlocks⟩

/-- After any calls on a fresh pool the stack and the flags are in step. Just the requests for no more
than the free blocks and the batches of distinct blocks that are out succeed, and a call that fails
leaves the pool as it was. -/
theorem pool_after_calls (numBlocks : Nat) (calls : List PoolCall) :
    let pool := afterAll numBlocks calls
    pool.InStep ∧ pool.numTotal = numBlocks ∧
    (∀ call : PoolCall, call.perform pool =
      match call.outcome pool with
      | .ok (granted, next) => .ok granted next
      | .error fault => .error fault pool) ∧
    (∀ count, pool.numFree < count → pool.allocate count = .error (.outOfBlocks count pool.numFree)) ∧
    (∀ count, count ≤ pool.numFree → ∃ granted next, pool.allocate count = .ok (granted, next) ∧
      granted.length = count ∧ granted.Nodup ∧ (∀ block ∈ granted, block ∈ pool.free) ∧
      ∀ block, next.owns block = true ↔ pool.owns block = true ∨ block ∈ granted) ∧
    (∀ blocks fault, pool.release blocks = .error fault ↔
      ∃ block, fault = .notAllocated block ∧ pool.Offends blocks block) ∧
    ∀ blocks, ((∃ next, pool.release blocks = .ok next) ↔
        blocks.Nodup ∧ ∀ block ∈ blocks, pool.owns block = true) ∧
      ∀ next, pool.release blocks = .ok next →
        ∀ block, next.owns block = true ↔ pool.owns block = true ∧ block ∉ blocks := by
  obtain ⟨out, accounts⟩ := accounts_afterAll numBlocks calls
  refine ⟨accounts.inStep, accounts.total, fun call => call.perform_eq _, ?_, ?_,
    fun blocks fault => BlockPool.release_eq_error, ?_⟩
  · intro count short
    rw [BlockPool.allocate_eq, if_pos short]
  · intro count enough
    have sublist := List.take_sublist count (afterAll numBlocks calls).free
    refine ⟨_, _, by rw [BlockPool.allocate_eq, if_neg (Nat.not_lt.mpr enough)], ?_, ?_, ?_, ?_⟩
    · exact List.length_take_of_le enough
    · exact accounts.inStep.once.sublist sublist
    · exact fun block member => sublist.subset member
    · exact accounts.owns_taken
  · intro blocks
    constructor
    · simp only [BlockPool.release_eq_ok, exists_eq_left]
    · intro next released
      obtain ⟨rfl, distinct, owned⟩ := BlockPool.release_eq_ok.mp released
      obtain ⟨rest, parted⟩ := accounts.split distinct owned
      exact parted.owns_returned

example : (afterAll 4 [.allocate 3, .release [1, 1], .release [1, 7], .release [1]]).free = [1, 3] := by
  decide

end PoolCall

end SlotServe
