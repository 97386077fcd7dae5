import Mathlib.Algebra.BigOperators.Group.List.Lemmas
import Mathlib.Algebra.Order.Ring.Nat
import Mathlib.Data.List.Nodup
import Mathlib.Order.Bounds.Basic
import SlotServe.Mesh
import SlotServe.Proofs.Lists

/-! Which meshes are made, and how far the shares of an axis reach. The axes of an accepted mesh go by different
names and none of them is without extent: a look-up finds the size of the very axis that was asked for, and a
length can be divided by it. -/
namespace SlotServe

namespace Mesh

variable {names : List String} {shape : List Nat} {devices : List Device} {mesh : Mesh}

/-- The checks of one axis after the other, against the names before it, come to this. -/
theorem badAxis_eq_none_iff {seen : List String} {axes : List (String × Nat)} :
    badAxis seen axes = none ↔
      (axes.map Prod.fst).Nodup ∧ ∀ axis ∈ axes, axis.1 ∉ seen ∧ axis.2 ≠ 0 := by
  induction axes generalizing seen with
  | nil => simp [badAxis]
  | cons axis rest ih =>
    obtain ⟨name, size⟩ := axis
    unfold badAxis
    by_cases again : name ∈ seen
    · rw [if_pos (List.contains_iff_mem.mpr again)]
      exact iff_of_false nofun fun sound => (sound.2 (name, size) (by simp)).1 again
    · rw [if_neg (by simpa using again)]
      by_cases empty : size = 0
      · rw [if_pos empty]
        exact iff_of_false nofun fun sound => (sound.2 (name, size) (by simp)).2 empty
      · rw [if_neg empty, ih, List.map_cons, List.nodup_cons]
        constructor
        · rintro ⟨distinct, sound⟩
          refine ⟨⟨fun later => ?_, distinct⟩, fun other member => ?_⟩
          · obtain ⟨axis, member, rfl⟩ := List.mem_map.mp later
            exact (sound axis member).1 (by simp)
          · rcases List.mem_cons.mp member with rfl | member
            · exact ⟨again, empty⟩
            · exact (sound other member).imp_left fun apart seen => apart (List.mem_cons_of_mem name seen)
        · rintro ⟨⟨first, distinct⟩, sound⟩
          refine ⟨distinct, fun other member => (sound other (List.mem_cons_of_mem _ member)).imp_left ?_⟩
          intro apart seen
          rcases List.mem_cons.mp seen with same | seen
          · have later : other.1 ∈ rest.map Prod.fst := List.mem_map_of_mem member
            exact first (same ▸ later)
          · exact apart seen

/-- Sizes that are no zero only make a product larger, so that no partial product leaves the word either. -/
theorem places?_countable {total : Nat} (extended : ∀ size ∈ shape, size ≠ 0)
    (countable : total * shape.prod < Size.limit) : places? total shape = some (total * shape.prod) := by
  induction shape generalizing total with
  | nil => simp [places?]
  | cons size rest ih =>
    have later : ∀ size ∈ rest, size ≠ 0 := fun other member => extended other (by simp [member])
    have grown : 0 < rest.prod :=
      List.prod_pos_iff_forall_pos_nat.mpr fun other member => Nat.pos_of_ne_zero (later other member)
    rw [List.prod_cons, ← Nat.mul_assoc] at countable ⊢
    have part : Size.mul? total size = some (total * size) :=
      if_pos (Nat.lt_of_le_of_lt (Nat.le_mul_of_pos_right _ grown) countable)
    rw [places?, part]
    exact ih later countable

structure Fillable (names : List String) (shape : List Nat) (devices : List Device) : Prop where
  named : names.length = shape.length
  distinct : names.Nodup
  extended : ∀ size ∈ shape, size ≠ 0
  filled : devices.length = shape.prod

theorem ofDevices_eq_ok_iff (countable : shape.prod < Size.limit) :
    ofDevices names shape devices = .ok mesh ↔
      Fillable names shape devices ∧ mesh = ⟨names.zip shape, devices⟩ := by
  unfold ofDevices
  by_cases named : names.length = shape.length
  · rw [if_neg (not_not.mpr named)]
    have axes : (names.zip shape).map Prod.fst = names := List.map_fst_zip named.le
    have sizes : (names.zip shape).map Prod.snd = shape := List.map_snd_zip named.ge
    have sound : badAxis [] (names.zip shape) = none ↔ names.Nodup ∧ ∀ size ∈ shape, size ≠ 0 := by
      rw [badAxis_eq_none_iff, axes, ← sizes, List.forall_mem_map]
      simp [sizes]
    dsimp only
    cases bad : badAxis [] (names.zip shape) with
    | some fault =>
      refine iff_of_false nofun fun made => ?_
      rw [sound.mpr ⟨made.1.distinct, made.1.extended⟩] at bad
      cases bad
    | none =>
      obtain ⟨distinct, extended⟩ := sound.mp bad
      have counted : places? 1 shape = some shape.prod := by
        rw [places?_countable extended (by rwa [Nat.one_mul]), Nat.one_mul]
      rw [counted]
      by_cases filled : devices.length = shape.prod
      · simp only [filled, ne_eq, not_true_eq_false, if_false, Except.ok.injEq]
        exact ⟨fun same => ⟨⟨named, distinct, extended, filled⟩, same.symm⟩, fun made => made.2.symm⟩
      · dsimp only
        rw [if_pos filled]
        exact iff_of_false nofun fun made => filled made.1.filled
  · rw [if_pos named]
    exact iff_of_false nofun fun made => named made.1.named

namespace Fillable

variable (fillable : Fillable names shape devices)

include fillable

theorem axisNames_eq : axisNames ⟨names.zip shape, devices⟩ = names :=
  List.map_fst_zip fillable.named.le

theorem shape_eq : Mesh.shape ⟨names.zip shape, devices⟩ = shape :=
  List.map_snd_zip fillable.named.ge

/-- Every axis is found under its name. -/
theorem axisSize_eq {index : Nat} {axis : String} {size : Nat} (name : names[index]? = some axis)
    (extent : shape[index]? = some size) : axisSize ⟨names.zip shape, devices⟩ axis = some size := by
  have axes : (names.zip shape).map Prod.fst = names := fillable.axisNames_eq
  have distinct : ((names.zip shape).map Prod.fst).Nodup := by
    rw [axes]
    exact fillable.distinct
  exact lookup_of_nodup distinct (List.getElem?_zip_eq_some.mpr ⟨name, extent⟩)

end Fillable

end Mesh

namespace Size

/-- A length is covered by so many shares of this extent, and of no smaller one. -/
theorem groups_isLeast {size : Nat} (positive : 0 < size) (count : Nat) :
    IsLeast {extent | count ≤ extent * size} (groups count size) :=
  ⟨(groups_le_iff positive _).mp (Nat.le_refl _), fun _ enough => (groups_le_iff positive _).mpr enough⟩

theorem groups_le {size : Nat} (positive : 0 < size) (count : Nat) : groups count size ≤ count :=
  (groups_le_iff positive count).mpr (Nat.le_mul_of_pos_right count positive)

end Size

namespace Mesh

/-- A mesh is made exactly of as many names as sizes, all names different and no size zero, and of as many devices
as the sizes multiply to. The shares along each of its axes are then the smallest that cover a length, and an
axis that it lacks is reported. -/
theorem shares_cover_axis (names : List String) (shape : List Nat) (devices : List Device)
    (countable : shape.prod < Size.limit) :
    ((∃ mesh, ofDevices names shape devices = .ok mesh) ↔
      names.length = shape.length ∧ names.Nodup ∧ (∀ size ∈ shape, size ≠ 0) ∧ devices.length = shape.prod) ∧
    ∀ mesh, ofDevices names shape devices = .ok mesh →
      mesh.axisNames = names ∧ mesh.shape = shape ∧ mesh.devices = devices ∧
      (∀ (index : Nat) axis size, names[index]? = some axis → shape[index]? = some size →
        mesh.axisSize axis = some size ∧ size ∣ mesh.numDevices ∧
        ∀ length < Size.limit, ∃ extent < Size.limit,
          (Sharding.partitioned axis).shardLength mesh length = .ok extent ∧
          IsLeast {extent | length ≤ extent * size} extent) ∧
      ∀ axis ∉ mesh.axisNames, ∀ length,
        (Sharding.partitioned axis).shardLength mesh length = .error (.unknownAxis axis) := by
  refine ⟨⟨?_, ?_⟩, ?_⟩
  · rintro ⟨mesh, made⟩
    obtain ⟨⟨named, distinct, extended, filled⟩, -⟩ := (ofDevices_eq_ok_iff countable).mp made
    exact ⟨named, distinct, extended, filled⟩
  · rintro ⟨named, distinct, extended, filled⟩
    exact ⟨_, (ofDevices_eq_ok_iff countable).mpr ⟨⟨named, distinct, extended, filled⟩, rfl⟩⟩
  · intro mesh made
    obtain ⟨fillable, rfl⟩ := (ofDevices_eq_ok_iff countable).mp made
    refine ⟨fillable.axisNames_eq, fillable.shape_eq, rfl, ?_, ?_⟩
    · intro index axis size name extent
      have found := fillable.axisSize_eq name extent
      have listed : size ∈ shape := List.mem_of_getElem? extent
      have positive : 0 < size := Nat.pos_of_ne_zero (fillable.extended size listed)
      have divides : size ∣ devices.length := by
        rw [fillable.filled]
        exact List.dvd_prod listed
      refine ⟨found, divides, fun length word => ?_⟩
      refine ⟨Size.groups length size, Nat.lt_of_le_of_lt (Size.groups_le positive length) word, ?_,
        Size.groups_isLeast positive length⟩
      rw [Sharding.shardLength, found]
      dsimp only
      rw [Size.divideUp_eq positive word]
    · intro axis absent length
      have missing : axisSize ⟨names.zip shape, devices⟩ axis = none := by
        refine List.lookup_eq_none_iff.mpr fun entry member => bne_iff_ne.mpr fun same => absent ?_
        exact same ▸ List.mem_map_of_mem member
      rw [Sharding.shardLength, missing]

/-- Ten places over the second axis of a grid of two by four take three each. -/
theorem grid_shares_cover_axis :
    [2, 4].prod < Size.limit ∧
      ∃ mesh extent, ofDevices ["data", "model"] [2, 4] (List.replicate 8 .host) = .ok mesh ∧
        mesh.axisSize "model" = some 4 ∧ 4 ∣ mesh.numDevices ∧
        (Sharding.partitioned "model").shardLength mesh 10 = .ok extent ∧
        IsLeast {extent | 10 ≤ extent * 4} extent ∧
        (Sharding.partitioned "pipe").shardLength mesh 10 = .error (.unknownAxis "pipe") := by
  have countable : [2, 4].prod < Size.limit := by decide
  obtain ⟨accepted, shares⟩ := shares_cover_axis ["data", "model"] [2, 4] (List.replicate 8 .host) countable
  obtain ⟨mesh, made⟩ := accepted.mpr (by decide)
  obtain ⟨names, -, -, axes, others⟩ := shares mesh made
  obtain ⟨found, divides, extents⟩ := axes 1 "model" 4 rfl rfl
  obtain ⟨extent, -, share, least⟩ := extents 10 (by decide)
  exact ⟨countable, mesh, extent, made, found, divides, share, least, others "pipe" (by rw [names]; decide) 10⟩

end Mesh

end SlotServe
