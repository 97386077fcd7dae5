import SlotServe.Proofs.Engine.Reach

/-! Two sound caches that differ only in which blocks a row owns. Every operation of the executor over
a transition table answers the same on both and leaves two such caches again. -/
namespace SlotServe

variable {σ α : Type}

/-- What is kept on either side is kept on both. -/
theorem mirrors_kept {ε : Type} {Holds : σ → Prop} {Related : σ → σ → Prop} {act : EStateM ε σ α}
    (kept : Keeps Holds act) (same : Mirrors Related act act) :
    Mirrors (fun state twin => Holds state ∧ Holds twin ∧ Related state twin) act act := by
  rintro state twin ⟨holds, holdsToo, related⟩
  have after := kept state holds
  have afterToo := kept twin holdsToo
  have ended := same state twin related
  generalize act state = first at after ended
  generalize act twin = second at afterToo ended
  cases ended with
  | ok value related => exact .ok value ⟨after, afterToo, related⟩
  | error fault related => exact .error fault ⟨after, afterToo, related⟩

namespace SlotBlocks

theorem outlines_freeSlot (cache : SlotBlocks) (slot : Nat) :
    (left (freeSlot slot cache)).slots.map (·.map BlockTable.outline) =
      (cache.slots.map (·.map BlockTable.outline)).modify slot (·.map fun outline => (0, 0, outline.2.2)) := by
  rw [slots_freeSlot]
  refine List.ext_getElem? fun place => ?_
  simp only [List.getElem?_map, List.getElem?_modify]
  cases cache.slots[place]? with
  | none => rfl
  | some tables =>
    by_cases here : slot = place <;> simp [here, BlockTable.outline, BlockTable.cleared]

theorem any_outline (tables : List BlockTable) :
    (tables.any fun table => !table.isEmpty) = (tables.map BlockTable.outline).any (·.1 != 0) := by
  rw [List.any_map]
  congr 1
  funext table
  cases blocks : table.blocks <;> simp [BlockTable.isEmpty, BlockTable.outline, blocks]

end SlotBlocks

namespace EngineSettings

variable (settings : EngineSettings)

/-- Both caches are sound, and they differ in the ids of blocks only. -/
def Twins (cache twin : SlotBlocks) : Prop := settings.Sound cache ∧ settings.Sound twin ∧ cache.Alike twin

variable {settings}

theorem reserve_twins (slot row count : Nat) :
    Mirrors settings.Twins (SlotBlocks.reserve slot row count) (SlotBlocks.reserve slot row count) :=
  mirrors_kept ((sound_kept slot).reserve row count) (SlotBlocks.reserve_alike slot row count)

theorem freeSlot_twins (slot : Nat) :
    Mirrors settings.Twins (SlotBlocks.freeSlot slot) (SlotBlocks.freeSlot slot) := by
  rintro cache twin ⟨sound, soundToo, alike⟩
  have after := (sound_kept slot).freeSlot cache sound
  have afterToo := (sound_kept slot).freeSlot twin soundToo
  have same := alike.rows slot
  have outlines := SlotBlocks.outlines_freeSlot cache slot
  rw [alike.tables, ← SlotBlocks.outlines_freeSlot twin slot] at outlines
  cases present : cache.slots[slot]? with
  | none =>
    rw [present] at same
    have absent := Option.map_eq_none_iff.mp same.symm
    rw [SlotBlocks.freeSlot_absent present, SlotBlocks.freeSlot_absent absent, alike.numSlots]
    exact .error _ ⟨sound, soundToo, alike⟩
  | some tables =>
    rw [present] at same
    obtain ⟨others, presentToo, rows⟩ := Option.map_eq_some_iff.mp same.symm
    rw [sound.accounted.freeSlot_eq present] at after outlines ⊢
    rw [soundToo.accounted.freeSlot_eq presentToo] at afterToo outlines ⊢
    -- The answer is how many blocks were given back, which the outlines of the tables tell.
    rw [SlotBlocks.length_held, SlotBlocks.length_held, rows]
    exact .ok _ ⟨after, afterToo, after.accounted.alike_of_outlines afterToo.accounted outlines⟩

theorem reserveRows_twins (slot count row rows : Nat) :
    Mirrors settings.Twins (SlotBlocks.reserveRows slot count row rows)
      (SlotBlocks.reserveRows slot count row rows) := by
  induction rows generalizing row with
  | zero => exact mirrors_pure ()
  | succ rows ih => exact mirrors_bind (reserve_twins slot row count) fun _ => ih (row + 1)

theorem reserveSlot_twins (slot count : Nat) :
    Mirrors settings.Twins (settings.reserveSlot slot count) (settings.reserveSlot slot count) := by
  intro cache twin twins
  have grown := reserveRows_twins slot count 0 settings.samplesPerSlot cache twin twins
  unfold reserveSlot
  generalize SlotBlocks.reserveRows slot count 0 settings.samplesPerSlot cache = ended at grown
  generalize SlotBlocks.reserveRows slot count 0 settings.samplesPerSlot twin = endedToo at grown
  cases grown with
  | ok _ related => exact .ok () related
  | @error fault between betweenToo related =>
    have freed := freeSlot_twins slot between betweenToo related
    cases fault with
    | defect cause => exact .error _ related
    | _ =>
      dsimp only
      generalize SlotBlocks.freeSlot slot between = undone at freed
      generalize SlotBlocks.freeSlot slot betweenToo = undoneToo at freed
      cases freed with
      | ok _ related => exact .error _ related
      | error _ related => exact .error _ related

theorem insertRows_twins (start : Prefilled) (state : DecodeState) (slot : Nat) (requestId : Option RequestId) :
    Mirrors settings.Twins (settings.insertRows start state slot requestId)
      (settings.insertRows start state slot requestId) := by
  have place : Mirrors settings.Twins (settings.placeRows start state slot requestId)
      (settings.placeRows start state slot requestId) :=
    mirrors_bind (mirrors_answer _) fun length =>
      mirrors_bind (reserveSlot_twins slot length) fun _ =>
        mirrors_bind (mirrors_answer _) fun rows => mirrors_pure _
  rintro cache twin twins
  have same := twins.2.2.rows slot
  rw [insertRows_eq, insertRows_eq]
  split
  next fits =>
    cases present : cache.slots[slot]? with
    | none =>
      rw [present] at same
      rw [Option.map_eq_none_iff.mp same.symm, twins.2.2.numSlots]
      exact .error _ twins
    | some tables =>
      rw [present] at same
      obtain ⟨others, presentToo, outlines⟩ := Option.map_eq_some_iff.mp same.symm
      rw [presentToo]
      dsimp only
      have occupied : (others.any fun table => !table.isEmpty) = tables.any fun table => !table.isEmpty := by
        rw [SlotBlocks.any_outline, SlotBlocks.any_outline, outlines]
      rw [occupied]
      split
      · exact mirrors_bind (freeSlot_twins slot) (fun _ => place) cache twin twins
      · exact place cache twin twins
  next misfit => exact .error _ twins

theorem tryInsertRows_twins (start : Prefilled) (state : DecodeState) (slot : Nat) (requestId : Option RequestId) :
    Mirrors settings.Twins (settings.tryInsertRows start state slot requestId)
      (settings.tryInsertRows start state slot requestId) := by
  intro cache twin twins
  have inserted := mirrors_bind (mirrors_answer (checkSlot settings.maxConcurrentDecodes slot))
    (fun _ => insertRows_twins start state slot requestId) cache twin twins
  unfold tryInsertRows
  dsimp only
  generalize (answer (checkSlot settings.maxConcurrentDecodes slot) >>= fun _ =>
    settings.insertRows start state slot requestId) cache = ended at inserted
  generalize (answer (checkSlot settings.maxConcurrentDecodes slot) >>= fun _ =>
    settings.insertRows start state slot requestId) twin = endedToo at inserted
  cases inserted with
  | ok next related => exact .ok next related
  | error fault related => cases fault <;> exact .error _ related

theorem free_twins (slot : Nat) : Mirrors settings.Twins (settings.free slot) (settings.free slot) :=
  mirrors_bind (mirrors_answer _) fun _ => mirrors_bind (freeSlot_twins slot) fun _ => mirrors_pure _

theorem generate_twins (table : TransitionTable) (state : DecodeState) (sampler : Option Sampler) :
    Mirrors settings.Twins (settings.generate table state sampler) (settings.generate table state sampler) :=
  mirrors_kept (sound_kept.generate settings table state sampler) (settings.generate_alike table state sampler)

end EngineSettings

end SlotServe
