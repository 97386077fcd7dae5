import SlotServe.Fault
/-! Sizes are machine words of 64 bits. A sum or product that leaves the word is refused, and a
count is split into groups by rounding up. -/
namespace SlotServe.Size

-- `2 ^ 64`
def limit : Nat := 0x10000000000000000

/-- Half of that. Below it a count can be rounded up to groups of any size. -/
def half : Nat := 0x8000000000000000

def add? (left right : Nat) : Option Nat :=
  if left + right < limit then some (left + right) else none

def mul? (left right : Nat) : Option Nat :=
  if left * right < limit then some (left * right) else none

def addressable (count bytes : Nat) : Bool := count * bytes < 0x8000000000000000

def total (counts : List Nat) : Nat := counts.foldr (· + ·) 0

theorem total_nil : total [] = 0 := rfl

theorem total_cons (count : Nat) (counts : List Nat) : total (count :: counts) = count + total counts := rfl

theorem total_append (counts others : List Nat) : total (counts ++ others) = total counts + total others := by
  induction counts with
  | nil => exact (Nat.zero_add _).symm
  | cons count rest ih => rw [List.cons_append, total_cons, total_cons, ih, Nat.add_assoc]

def groups (count size : Nat) : Nat := (count + size - 1) / size

theorem groups_le_iff {count size : Nat} (positive : 0 < size) (bound : Nat) :
    groups count size ≤ bound ↔ count ≤ bound * size := by
  rw [groups, Nat.div_le_iff_le_mul_add_pred positive, Nat.mul_comm size bound]
  omega

/-- A size is no more than a machine word, so that rounding up at most doubles a count beyond that. -/
theorem groups_mul_lt {count size : Nat} (positive : 0 < size) (word : size < limit) (few : count ≤ half) :
    groups count size * size < limit := by
  have double : limit = 2 * half := rfl
  rcases Nat.le_total count size with small | large
  · have single := (groups_le_iff positive 1).mpr (by omega : count ≤ 1 * size)
    have room := Nat.mul_le_mul_right size single
    omega
  · have room : groups count size * size ≤ count + size - 1 := Nat.div_mul_le_self ..
    omega

def divideUp (count size : Nat) : Except Defect Nat :=
  if size = 0 then .error .divisionByZero
  else if count % size = 0 then .ok (count / size)
  else
    match add? (count / size) 1 with
    | some groups => .ok groups
    | none => .error .overflow

theorem divideUp_eq {count size : Nat} (positive : 0 < size) (word : count < limit) :
    divideUp count size = .ok (groups count size) := by
  have parted : size * (count / size) + count % size = count := Nat.div_add_mod count size
  have rest : count % size < size := Nat.mod_lt count positive
  -- Rounding up adds to a rest what makes it one more group, and to no rest less than a group.
  have raised : groups count size = count / size + (count % size + (size - 1)) / size := by
    have split : count + size - 1 = count % size + (size - 1) + size * (count / size) := by omega
    rw [groups, split, Nat.add_mul_div_left _ _ positive, Nat.add_comm]
  unfold divideUp
  rw [if_neg (Nat.ne_of_gt positive), raised]
  by_cases even : count % size = 0
  · have none : (count % size + (size - 1)) / size = 0 := Nat.div_eq_of_lt (by omega)
    rw [if_pos even, none, Nat.add_zero]
  · have one : (count % size + (size - 1)) / size = 1 :=
      Nat.div_eq_of_lt_le (by omega) (by omega)
    -- A rest shows that groups have two members at least, so there are fewer of them than members.
    have few : 2 * (count / size) ≤ size * (count / size) := Nat.mul_le_mul_right _ (by omega)
    have counted : add? (count / size) 1 = some (count / size + 1) := if_pos (by omega)
    rw [if_neg even, one, counted]

theorem groups_zero (size : Nat) : groups 0 size = 0 := by
  rw [groups, Nat.zero_add]
  cases size with
  | zero => rfl
  | succ size => exact Nat.div_eq_of_lt (by omega)

end SlotServe.Size
