import SlotServe.Proofs.Block.Room
import SlotServe.Proofs.Engine.Choice
import SlotServe.Proofs.Engine.Tenancy

/-! What the free blocks decide. A fitting prompt gets into a slot without blocks exactly when the free
blocks suffice for all rows of the slot, and a decode step of tokens that have scores fails for want of
blocks only. While no row holds more than its share of the blocks, neither can fail. -/
namespace SlotServe.EngineSettings

variable {settings : EngineSettings} {cache after : SlotBlocks} {slot count most : Nat} {start : Prefilled}

def footprint (settings : EngineSettings) (tokens : Nat) : Nat :=
  settings.samplesPerSlot * Size.groups tokens settings.blockSize

section

variable (sound : settings.Sound cache) (sized : 0 < settings.blockSize) (word : settings.blockSize < Size.limit)
  (inside : slot < settings.maxConcurrentDecodes)

include sound sized word inside

theorem reserveSlot_room (vacant : cache.Vacant slot) (addressable : Size.addressable count 4 = true) :
    Hinges (settings.footprint (count + 1) ≤ cache.pool.numFree) (settings.reserveSlot slot (count + 1) cache) := by
  have half : Size.half = 0x8000000000000000 := rfl
  have short : count * 4 < 0x8000000000000000 := by simpa [Size.addressable] using addressable
  have storable (table : BlockTable) (snug : table.Snug settings.blockSize) (none : table.numTokens = 0) :
      table.Storable (count + 1) := snug.storable word (by omega)
  have room := sound.accounted.reserveRows_room sound.shaped inside (Nat.le_of_eq (Nat.zero_add _)) storable
    fun place table _ found => vacant place table found
  rw [Nat.max_eq_left sized] at room
  unfold reserveSlot
  rcases room with ⟨enough, _, after, grown⟩ | ⟨short, fault, between, refused, full⟩
  · rw [grown]
    exact .inl ⟨enough, (), after, rfl⟩
  · have later := SlotBlocks.reserveRows_keeps (fun row => (sound_kept slot).reserve row (count + 1)) 0
      settings.samplesPerSlot cache sound
    rw [refused] at later ⊢
    have later : settings.Sound between := later
    obtain ⟨tables, present, -⟩ := later.shaped.present inside
    have freed := later.accounted.freeSlot_eq present
    obtain ⟨requested, available, rfl⟩ := Fault.isOutOfBlocks_iff.mp full
    dsimp only
    rw [freed]
    exact .inr ⟨short, _, _, rfl, full⟩

/-- The free blocks and those that the slot gives back suffice for the prompt and its first token, or the
insert gives the decode state back. -/
theorem tryInsert_hinges {tables : List BlockTable} (present : cache.slots[slot]? = some tables) (fit : start.Fit)
    (fits : settings.FitsSlot start) (state : DecodeState) (requestId : Option RequestId) :
    (settings.footprint (start.context.length + 1) ≤ cache.pool.numFree + (SlotBlocks.held tables).length ∧
      ∃ next after, settings.tryInsertRows start state slot requestId cache = .ok next after) ∨
    (¬settings.footprint (start.context.length + 1) ≤ cache.pool.numFree + (SlotBlocks.held tables).length ∧
      ∃ fault after, settings.tryInsertRows start state slot requestId cache = .error ⟨fault, some state⟩ after ∧
        fault.isOutOfBlocks = true) := by
  obtain ⟨later, vacant⟩ := emptied_vacant sound present
  obtain ⟨rows, seeded⟩ : ∃ rows, seedRows start requestId 0 settings.samplesPerSlot = .ok rows :=
    seedRows_ok fit.scored fits (Nat.le_of_eq (Nat.zero_add _))
  have placed : settings.placeRows start state slot requestId (cache.emptied slot tables) =
      (settings.reserveSlot slot (start.context.length + 1) >>= fun _ => pure (state.setSlot slot rows))
        (cache.emptied slot tables) := by
    unfold placeRows
    rw [fit.storable.counted, seeded]
    rfl
  have checked : answer (checkSlot settings.maxConcurrentDecodes slot) cache = .ok () cache := by
    rw [checkSlot, if_pos inside]
    rfl
  have course : (do answer (checkSlot settings.maxConcurrentDecodes slot)
                    settings.insertRows start state slot requestId) cache =
      settings.placeRows start state slot requestId (cache.emptied slot tables) :=
    (bind_ok _ checked).trans (insertRows_emptied sound present fits state requestId)
  unfold tryInsertRows
  dsimp only
  rw [course, placed, ← SlotBlocks.numFree_emptied]
  rcases reserveSlot_room later sized word inside vacant fit.addressable with
    ⟨enough, _, after, grown⟩ | ⟨full, fault, after, refused, lacking⟩
  · rw [bind_ok _ grown]
    exact .inl ⟨enough, _, _, rfl⟩
  · rw [bind_error _ refused]
    obtain ⟨requested, available, rfl⟩ := Fault.isOutOfBlocks_iff.mp lacking
    exact .inr ⟨full, _, _, rfl, lacking⟩

theorem tryInsert_room (idle : ∀ row, cache.isLive slot row = false) (fit : start.Fit)
    (fits : settings.FitsSlot start) (state : DecodeState) (requestId : Option RequestId) :
    (settings.footprint (start.context.length + 1) ≤ cache.pool.numFree ∧
      ∃ next after, settings.tryInsertRows start state slot requestId cache = .ok next after) ∨
    (¬settings.footprint (start.context.length + 1) ≤ cache.pool.numFree ∧ ∃ fault after,
      settings.tryInsertRows start state slot requestId cache = .error ⟨fault, some state⟩ after ∧
        fault.isOutOfBlocks = true) := by
  obtain ⟨tables, present, -⟩ := sound.shaped.present inside
  have nothing : SlotBlocks.held tables = [] :=
    List.flatMap_eq_nil_iff.mpr (SlotBlocks.held_of_idle present idle)
  have hinges := tryInsert_hinges sound sized word inside present fit fits state requestId
  rwa [nothing, List.length_nil, Nat.add_zero] at hinges

end

theorem nextTokens_ok {table : TransitionTable} {vocabulary : Nat} {cells : List UInt32}
    (square : table.Square vocabulary cells) {tokens : List UInt32} (some : tokens ≠ [])
    (inside : ∀ token ∈ tokens, token.toNat < vocabulary) :
    ∃ next logProbs, nextTokens table none tokens = .ok (next, logProbs) ∧
      next.length = tokens.length ∧ logProbs.length = tokens.length := by
  rw [nextTokens_eq square some inside]
  have best : ((tokens.map (scoreRow vocabulary cells)).map bestToken).length = tokens.length := by
    rw [List.length_map, List.length_map]
  refine ⟨_, _, if_pos best, best, ?_⟩
  rw [List.length_zipWith, best, List.length_map, Nat.min_self]

section

variable {state : DecodeState} (slots : 0 < settings.maxConcurrentDecodes) (positive : 0 < settings.samplesPerSlot)
  (grid : Grid settings.maxConcurrentDecodes settings.samplesPerSlot state.slots)

include grid

theorem length_rows : (state.rows.map (·.sample)).length = settings.maxConcurrentDecodes * settings.samplesPerSlot := by
  rw [List.length_map, DecodeState.rows, grid.uniform.length_flatten, grid.height]

include slots positive

theorem ofSamples_rows : ResultBuffer.ofSamples (state.rows.map (·.sample)) settings.samplesPerSlot =
    .ok (.ofSingles (state.rows.map (·.sample)) settings.samplesPerSlot) := by
  have single : ∀ sample ∈ state.rows.map (·.sample), sample.Single := by
    intro sample member
    obtain ⟨entry, -, rfl⟩ := List.mem_map.mp member
    exact entry.single_sample
  have length := length_rows grid
  have some : state.rows.map (·.sample) ≠ [] := by
    refine List.ne_nil_of_length_pos ?_
    rw [length]
    exact Nat.mul_pos slots positive
  exact ResultBuffer.ofSamples_singles single some positive ⟨_, length.trans (Nat.mul_comm ..)⟩

end

theorem reserve_short {row : Nat} {table : BlockTable} (sound : settings.Sound cache)
    (found : cache.table? slot row = some table) (countable : table.Countable settings.numBlocks count) :
    Ends settings.Sound (·.isOutOfBlocks = true) (SlotBlocks.reserve slot row count cache) := by
  have later := (sound_kept slot).reserve row count cache sound
  rw [sound.accounted.reserve_eq found countable] at later ⊢
  split
  next enough => rwa [if_pos enough] at later
  next => rfl

theorem reserve_within {row : Nat} {table : BlockTable} (sized : 0 < settings.blockSize)
    (ample : settings.maxConcurrentDecodes * (settings.samplesPerSlot * most) ≤ settings.numBlocks)
    (holds : settings.Sound cache ∧ cache.Capped most) (found : cache.table? slot row = some table)
    (countable : table.Countable settings.numBlocks count)
    (short : Size.groups (table.numTokens + count) settings.blockSize ≤ most) :
    Ends (fun cache => settings.Sound cache ∧ cache.Capped most) (fun _ => False)
      (SlotBlocks.reserve slot row count cache) := by
  obtain ⟨sound, capped⟩ := holds
  rw [← Nat.max_eq_left sized] at short
  have later := (sound_kept slot).reserve row count cache sound
  obtain ⟨granted, bounded⟩ := capped.reserve_ok sound.accounted sound.shaped ample found countable short
  rw [granted] at later ⊢
  exact ⟨later, bounded⟩

section

variable {Holds : SlotBlocks → Prop} {Ready : BlockTable → Prop} {Lacking : Fault → Prop}
  (grow : ∀ cache slot row table, Holds cache → cache.table? slot row = some table → Ready table →
    Ends Holds Lacking (SlotBlocks.reserve slot row 1 cache))

include grow

theorem advance_ends {places : List (Nat × Nat)} {tokens : List UInt32} {logProbs : List Float32}
    (distinct : places.Nodup) (holds : Holds cache)
    (ready : ∀ place ∈ places, ∃ table, cache.table? place.1 place.2 = some table ∧ Ready table)
    (enough : places.length ≤ tokens.length) (scored : places.length ≤ logProbs.length) (state : DecodeState) :
    Ends Holds Lacking (advance state places tokens logProbs cache) := by
  induction places generalizing cache state tokens logProbs with
  | nil => exact holds
  | cons place rest ih =>
    obtain ⟨slot, row⟩ := place
    match tokens, logProbs, enough, scored with
    | token :: tokens, logProb :: logProbs, enough, scored =>
      obtain ⟨table, found, first⟩ := ready (slot, row) (by simp)
      refine ends_bind (grow cache slot row table holds found first) fun _ between reserved holds => ?_
      have framed (place : Nat × Nat) (other : place ≠ (slot, row)) :
          between.table? place.1 place.2 = cache.table? place.1 place.2 := by
        have kept : (left (SlotBlocks.reserve slot row 1 cache)).table? place.1 place.2 =
            cache.table? place.1 place.2 := SlotBlocks.table?_reserve fun same => other (Prod.ext same.1 same.2)
        rwa [reserved] at kept
      rw [List.nodup_cons] at distinct
      refine ih distinct.2 holds (fun place member => ?_) (Nat.le_of_succ_le_succ enough)
        (Nat.le_of_succ_le_succ scored) _
      have different : place ≠ (slot, row) := fun same => distinct.1 (same ▸ member)
      rw [framed place different]
      exact ready place (List.mem_cons_of_mem _ member)

theorem generate_ends {table : TransitionTable} {vocabulary : Nat} {cells : List UInt32}
    (square : table.Square vocabulary cells) (slots : 0 < settings.maxConcurrentDecodes)
    (positive : 0 < settings.samplesPerSlot) {state : DecodeState}
    (grid : Grid settings.maxConcurrentDecodes settings.samplesPerSlot state.slots) (holds : Holds cache)
    (ready : ∀ slot row entry, state.row? slot row = some entry → entry.active = true →
      cache.isLive slot row = true → (entry.lastToken.getD 0).toNat < vocabulary ∧
        ∃ counts, cache.table? slot row = some counts ∧ Ready counts) :
    Ends Holds Lacking (settings.generate table state none cache) := by
  have stepping_ready (entry : Nat × Nat × UInt32) (member : entry ∈ stepping (settle cache state)) :
      entry.2.2.toNat < vocabulary ∧ ∃ counts, cache.table? entry.1 entry.2.1 = some counts ∧ Ready counts := by
    obtain ⟨old, found, active, last⟩ := mem_stepping.mp member
    obtain ⟨present, live⟩ := settle_active found active
    rw [← last]
    exact ready _ _ old present active live
  rw [generate_eq]
  refine ends_bind ?_ fun next after stepped holds => ?_
  · unfold stepRows
    dsimp only
    split
    next => exact holds
    next some =>
      have some : (stepping (settle cache state)).map (·.2.2) ≠ [] := by simpa using some
      have inside : ∀ token ∈ (stepping (settle cache state)).map (·.2.2), token.toNat < vocabulary := by
        intro token member
        obtain ⟨entry, stepping, rfl⟩ := List.mem_map.mp member
        exact (stepping_ready entry stepping).1
      obtain ⟨next, logProbs, chosen, enough, scored⟩ := nextTokens_ok square some inside
      rw [chosen]
      refine advance_ends grow (stepping_nodup _) holds (fun place member => ?_) ?_ ?_ _
      · obtain ⟨entry, stepping, rfl⟩ := List.mem_map.mp member
        exact (stepping_ready entry stepping).2
      · rw [enough, List.length_map, List.length_map]
      · rw [scored, List.length_map, List.length_map]
  · have later := stepRows_grid (settle_grid grid) stepped
    unfold writeRows
    rw [ofSamples_rows slots positive later]
    exact holds

end

end SlotServe.EngineSettings
