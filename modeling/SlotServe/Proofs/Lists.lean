import Mathlib.Data.List.Basic
import Mathlib.Data.List.Forall2
import Mathlib.Data.List.Perm.Basic

/-! Lists that change in one place, lists of lists of one length, and lists that are looked up by key. -/
namespace SlotServe

theorem modify_of_getElem? {α : Type} {items : List α} {place : Nat} {old : α}
    (found : items[place]? = some old) (change : α → α) :
    items.modify place change = items.set place (change old) := by
  rw [List.modify_eq_set_getElem?, found]
  rfl

theorem modify_of_absent {α : Type} {items : List α} {place : Nat} (absent : items[place]? = none)
    (change : α → α) : items.modify place change = items := by
  rw [List.modify_eq_set_getElem?, absent]
  rfl

/-- Where the keys differ, each entry is found under its key. -/
theorem lookup_of_nodup {α β : Type} [BEq α] [LawfulBEq α] {entries : List (α × β)}
    (distinct : (entries.map Prod.fst).Nodup) {place : Nat} {key : α} {value : β}
    (found : entries[place]? = some (key, value)) : entries.lookup key = some value := by
  obtain ⟨inside, entry⟩ := List.getElem?_eq_some_iff.mp found
  have split : entries = entries.take place ++ (key, value) :: entries.drop (place + 1) := by
    rw [← entry, List.getElem_cons_drop, List.take_append_drop]
  rw [split, List.map_append, List.map_cons] at distinct
  refine List.lookup_eq_some_iff.mpr ⟨_, _, split, fun earlier member => bne_iff_ne.mpr fun same => ?_⟩
  exact (List.nodup_append.mp distinct).2.2 earlier.1 (List.mem_map_of_mem member) key (by simp) same.symm

theorem map_modify {α β : Type} {view : α → β} {change : α → α} (unseen : ∀ item, view (change item) = view item)
    (items : List α) (place : Nat) : (items.modify place change).map view = items.map view := by
  apply List.ext_getElem?
  intro i
  rw [List.getElem?_map, List.getElem?_map, List.getElem?_modify]
  cases items[i]? with
  | none => rfl
  | some item =>
    by_cases same : place = i <;> simp [same, unseen]

/-- Two lists that differ in one place agree on the rest. -/
theorem flatMap_set_perm {α β : Type} (f : α → List β) {items : List α} {place : Nat} {old : α}
    (found : items[place]? = some old) :
    ∃ rest, (items.flatMap f).Perm (f old ++ rest) ∧
      ∀ new, ((items.set place new).flatMap f).Perm (f new ++ rest) := by
  induction items generalizing place with
  | nil => simp at found
  | cons first items ih =>
    cases place with
    | zero =>
      obtain rfl : first = old := by simpa using found
      exact ⟨items.flatMap f, by simp, fun new => by simp⟩
    | succ place =>
      obtain ⟨rest, before, after⟩ := ih (by simpa using found)
      have swapped (part : List β) : (f first ++ (part ++ rest)).Perm (part ++ (f first ++ rest)) := by
        rw [← List.append_assoc, ← List.append_assoc]
        exact List.perm_append_comm.append_right rest
      refine ⟨f first ++ rest, ?_, fun new => ?_⟩
      · exact (before.append_left (f first)).trans (swapped _)
      · exact ((after new).append_left (f first)).trans (swapped _)

theorem length_flatMap_le {α β : Type} {f : α → List β} {items : List α} {most : Nat}
    (short : ∀ item ∈ items, (f item).length ≤ most) : (items.flatMap f).length ≤ items.length * most := by
  induction items with
  | nil => simp
  | cons first rest ih =>
    have head := short first (by simp)
    have tail := ih fun item member => short item (List.mem_cons_of_mem first member)
    rw [List.flatMap_cons, List.length_append, List.length_cons, Nat.succ_mul]
    omega

theorem zipIdx_pairwise {α : Type} (items : List α) : items.zipIdx.Pairwise (·.2 ≠ ·.2) := by
  rw [← List.pairwise_map (f := Prod.snd), List.zipIdx_map_snd]
  exact List.nodup_range'

theorem zipIdx_map_zipIdx {α β : Type} (view : α × Nat → β) (items : List α) :
    (items.zipIdx.map view).zipIdx = items.zipIdx.map fun item => (view item, item.2) := by
  apply List.ext_getElem?
  intro place
  simp only [List.getElem?_zipIdx, List.getElem?_map, Nat.zero_add]
  cases items[place]? <;> rfl

/-- Pairing up looks at no more of the first list than there are partners. -/
theorem zipWith_prefix_map {α β γ : Type} (f : α → γ) (items : List α) (others : List β) :
    List.zipWith (fun item _ => f item) items others <+: items.map f := by
  induction items generalizing others with
  | nil => simp
  | cons item rest ih =>
    cases others with
    | nil => simp
    | cons other others => exact (List.prefix_cons_inj (f item)).mpr (ih others)

section

variable {α β : Type}

def OfWidth (width : Nat) (rows : List (List α)) : Prop := ∀ row ∈ rows, row.length = width

namespace OfWidth

variable {width : Nat} {rows : List (List α)}

theorem tail {first : List α} (uniform : OfWidth width (first :: rows)) : OfWidth width rows :=
  fun row member => uniform row (List.mem_cons_of_mem first member)

theorem sublist {others : List (List α)} (uniform : OfWidth width rows) (part : others.Sublist rows) :
    OfWidth width others :=
  fun row member => uniform row (part.subset member)

theorem length_flatten (uniform : OfWidth width rows) : rows.flatten.length = rows.length * width := by
  induction rows with
  | nil => simp
  | cons first rest ih =>
    rw [List.flatten_cons, List.length_append, ih uniform.tail, uniform first (by simp), List.length_cons,
      Nat.succ_mul, Nat.add_comm]

theorem drop_flatten (uniform : OfWidth width rows) (count : Nat) :
    rows.flatten.drop (count * width) = (rows.drop count).flatten := by
  induction rows generalizing count with
  | nil => simp
  | cons first rest ih =>
    cases count with
    | zero => simp
    | succ count =>
      have size := uniform first (by simp)
      rw [List.flatten_cons, Nat.succ_mul, Nat.add_comm, ← List.drop_drop, ← size, List.drop_left, size,
        ih uniform.tail, List.drop_succ_cons]

theorem take_flatten (uniform : OfWidth width rows) (count : Nat) :
    rows.flatten.take (count * width) = (rows.take count).flatten := by
  induction rows generalizing count with
  | nil => simp
  | cons first rest ih =>
    cases count with
    | zero => simp
    | succ count =>
      have size := uniform first (by simp)
      rw [List.flatten_cons, Nat.succ_mul, Nat.add_comm, List.take_add, ← size, List.take_left,
        List.drop_left, size, ih uniform.tail, List.take_succ_cons, List.flatten_cons]

end OfWidth

theorem ofWidth_map {width : Nat} {items : List β} {row : β → List α}
    (sized : ∀ item ∈ items, (row item).length = width) : OfWidth width (items.map row) := by
  intro cells member
  obtain ⟨item, present, rfl⟩ := List.mem_map.mp member
  exact sized item present

structure Grid (height width : Nat) (rows : List (List α)) : Prop where
  height : rows.length = height
  uniform : OfWidth width rows

namespace Grid

variable {height width place : Nat} {rows : List (List α)}

theorem replicate (height : Nat) (row : List α) : Grid height row.length (List.replicate height row) := by
  refine ⟨List.length_replicate, fun other member => ?_⟩
  rw [List.eq_of_mem_replicate member]

theorem present (grid : Grid height width rows) (inside : place < height) :
    ∃ row, rows[place]? = some row ∧ row.length = width := by
  have bound : place < rows.length := by rw [grid.height]; exact inside
  exact ⟨rows[place], List.getElem?_eq_getElem bound, grid.uniform _ (List.getElem_mem bound)⟩

theorem absent (grid : Grid height width rows) (outside : height ≤ place) : rows[place]? = none := by
  rw [List.getElem?_eq_none_iff, grid.height]
  exact outside

theorem entry {column : Nat} (grid : Grid height width rows) (inside : place < height)
    (within : column < width) : ∃ item, rows[place]?.bind (·[column]?) = some item := by
  obtain ⟨row, found, rfl⟩ := grid.present inside
  exact ⟨row[column], by rw [found]; exact List.getElem?_eq_getElem within⟩

theorem inside {column : Nat} {item : α} (grid : Grid height width rows)
    (found : rows[place]?.bind (·[column]?) = some item) : place < height ∧ column < width := by
  obtain ⟨row, present, located⟩ := Option.bind_eq_some_iff.mp found
  have size := grid.uniform row (List.mem_of_getElem? present)
  rw [← grid.height, ← size]
  exact ⟨(List.getElem?_eq_some_iff.mp present).1, (List.getElem?_eq_some_iff.mp located).1⟩

theorem set (grid : Grid height width rows) (place : Nat) {row : List α} (fits : row.length = width) :
    Grid height width (rows.set place row) := by
  refine ⟨by rw [List.length_set, grid.height], fun other member => ?_⟩
  rcases List.mem_or_eq_of_mem_set member with old | rfl
  · exact grid.uniform other old
  · exact fits

theorem modify (grid : Grid height width rows) (place : Nat) {change : List α → List α}
    (keeps : ∀ row, (change row).length = row.length) : Grid height width (rows.modify place change) := by
  cases found : rows[place]? with
  | none =>
    rw [modify_of_absent found]
    exact grid
  | some row =>
    rw [modify_of_getElem? found]
    refine grid.set place ?_
    rw [keeps]
    exact grid.uniform row (List.mem_of_getElem? found)

theorem flatten_row (grid : Grid height width rows) {row : List α} (found : rows[place]? = some row) :
    (rows.flatten.drop (place * width)).take width = row := by
  have inside := (List.getElem?_eq_some_iff.mp found).1
  rw [grid.uniform.drop_flatten, ← Nat.one_mul width,
    (grid.uniform.sublist (List.drop_sublist _ _)).take_flatten, List.take_one, List.head?_drop, found]
  simp

theorem getElem?_flatten (grid : Grid height width rows) {column : Nat} (inside : place < height)
    (within : column < width) : rows.flatten[place * width + column]? = rows[place]?.bind (·[column]?) := by
  obtain ⟨row, found, -⟩ := grid.present inside
  have cut := congrArg (·[column]?) (grid.flatten_row found)
  simp only [List.getElem?_take, if_pos within, List.getElem?_drop] at cut
  rw [cut, found]
  rfl

end Grid

theorem zip_opposite {items : List α} {others : List β} (enough : items.length ≤ others.length) {item : α}
    (member : item ∈ items) : ∃ other, (item, other) ∈ items.zip others := by
  obtain ⟨place, inside, rfl⟩ := List.mem_iff_getElem.mp member
  have within : place < others.length := by omega
  have both : place < (items.zip others).length := by
    rw [List.length_zip]
    omega
  have opposite := List.getElem_mem both
  rw [List.getElem_zip] at opposite
  exact ⟨others[place], opposite⟩

/-- In two lists that are related entry by entry, an entry stands opposite to one that it is related to. -/
theorem forall₂_opposite {Related : α → β → Prop} {items : List α} {others : List β}
    (related : List.Forall₂ Related items others) {item : α} (member : item ∈ items) :
    ∃ other, (item, other) ∈ items.zip others ∧ Related item other := by
  induction related with
  | nil => cases member
  | @cons first second rest others here _ ih =>
    rcases List.mem_cons.mp member with rfl | later
    · exact ⟨second, by simp, here⟩
    · obtain ⟨other, opposite, holds⟩ := ih later
      exact ⟨other, List.mem_cons_of_mem _ opposite, holds⟩

end

end SlotServe
