import SlotServe.Proofs.Engine.Calls
import SlotServe.Proofs.Engine.Proper

/-! Calls that take up decode states. They end properly on a sound cache whose rows are short, whatever slots and
samplers they are given, and the decode state that they answer has all rows of all slots. -/
namespace SlotServe

namespace EngineSettings

variable {settings : EngineSettings} {cache : SlotBlocks} {start : Prefilled} {slot : Nat}

section

variable (word : settings.blockSize < Size.limit) (storable : start.Storable)

include word storable

theorem insertRows_ends (sound : settings.Sound cache) (state : DecodeState) (slot : Nat)
    (requestId : Option RequestId) :
    Ends settings.Sound Fault.Proper (settings.insertRows start state slot requestId cache) :=
  ends_of_keeps ((sound_kept slot).insertRows settings start state requestId) sound fun _ _ failed =>
    insertRows_proper sound word storable failed

theorem insertEach_ends (sound : settings.Sound cache) (state : DecodeState) (slots : List Nat) :
    Ends settings.Sound Fault.Proper (settings.insertEach start state slots cache) := by
  induction slots generalizing cache state with
  | nil => exact sound
  | cons slot rest ih =>
    exact ends_bind (insertRows_ends word storable sound state slot none) fun next _ _ sound => ih sound next

theorem tryInsertRows_ends (sound : settings.Sound cache) (state : DecodeState) (slot : Nat)
    (requestId : Option RequestId) :
    Ends settings.Sound (fun rejected => rejected.fault.Proper)
      (settings.tryInsertRows start state slot requestId cache) := by
  have inserted : Ends settings.Sound Fault.Proper ((do
      answer (checkSlot settings.maxConcurrentDecodes slot)
      settings.insertRows start state slot requestId) cache) :=
    ends_bind (ends_answer (checkSlot_proper _ _) sound) fun _ _ _ sound =>
      insertRows_ends word storable sound state slot requestId
  unfold tryInsertRows
  dsimp only
  split
  next ended => rwa [ended] at inserted
  next ended => rwa [ended] at inserted
  next ended => rwa [ended] at inserted

end

theorem free_ends (sound : settings.Sound cache) (slot : Nat) :
    Ends settings.Sound Fault.Proper (settings.free slot cache) := by
  refine ends_bind (ends_answer (checkSlot_proper _ _) sound) fun _ cache _ sound => ?_
  have later := (sound_kept slot).freeSlot cache sound
  refine ends_bind ?_ fun _ _ _ sound => sound
  cases present : cache.slots[slot]? with
  | none =>
    rw [SlotBlocks.freeSlot_absent present]
    exact nofun
  | some tables =>
    rw [sound.accounted.freeSlot_eq present] at later ⊢
    exact later

/-- A row grows by one token without a defect as long as its tokens stay below half the range of a size. -/
theorem reserve_ends (word : settings.blockSize < Size.limit) {row : Nat} {table : BlockTable}
    (sound : settings.Sound cache) (found : cache.table? slot row = some table)
    (short : table.numTokens + 1 < Size.half) :
    Ends settings.Sound Fault.Proper (SlotBlocks.reserve slot row 1 cache) := by
  refine ends_of_keeps ((sound_kept slot).reserve row 1) sound fun fault after failed => ?_
  have storable (other : BlockTable) (same : cache.table? slot row = some other) : other.Storable 1 := by
    obtain rfl := Option.some.inj (found.symm.trans same)
    exact (sound.accounted.snug slot row table found).storable word short.le
  obtain ⟨-, cause, rfl, -⟩ := sound.accounted.reserve_refused storable failed
  exact nofun

theorem nextTokens_proper (table : TransitionTable) (sampler : Option Sampler) (tokens : List UInt32) :
    Proper (nextTokens table sampler tokens) :=
  proper_bind (table.rowsOf_proper tokens) fun scores _ => proper_bind (pickTokens_proper scores sampler) fun _ _ =>
    proper_bind (proper_ofTensor _) fun _ _ => proper_ok _

/-- Whatever sampler picks the tokens, there is one for each row, with its log probability. -/
theorem nextTokens_length {table : TransitionTable} {sampler : Option Sampler} {tokens next : List UInt32}
    {logProbs : List Float32} (ok : nextTokens table sampler tokens = .ok (next, logProbs)) :
    next.length = tokens.length ∧ logProbs.length = tokens.length := by
  obtain ⟨scores, looked, ok⟩ := except_links ok
  obtain ⟨picked, picking, ok⟩ := except_links ok
  obtain ⟨scored, scoring, ok⟩ := except_links ok
  cases ok
  obtain ⟨rest, -, shape⟩ := TransitionTable.rowsOf_shape looked
  have rows := TransitionTable.pickTokens_length picking
  have each := tokenLogProbs_length rows (ofTensor_success scoring)
  rw [shape] at rows
  have size : next.length = tokens.length := (Option.some.inj rows).symm
  exact ⟨size, each.trans size⟩

/-- Every row that steps has a table, and it is named once, so that its table has grown by no token before. -/
theorem generate_ends_proper (word : settings.blockSize < Size.limit) (sound : settings.Sound cache)
    {state : DecodeState}
    (short : ∀ slot row entry counts, state.row? slot row = some entry → entry.active = true →
      cache.table? slot row = some counts → counts.numTokens + 1 < Size.half)
    (table : TransitionTable) (sampler : Option Sampler) :
    Ends settings.Sound Fault.Proper (settings.generate table state sampler cache) := by
  rw [generate_eq]
  refine ends_bind ?_ fun next _ _ sound => ?_
  · unfold stepRows
    dsimp only
    split
    next => exact sound
    next =>
      refine ends_bind (ends_answer (nextTokens_proper _ _ _) sound) fun found between chosen _ => ?_
      obtain ⟨next, logProbs⟩ := found
      obtain ⟨chosen, same⟩ := answer_success chosen
      rw [same]
      obtain ⟨enough, scored⟩ := nextTokens_length chosen
      rw [List.length_map] at enough scored
      -- Only rows that own blocks step, and those have a table.
      have tables (place : Nat × Nat) (member : place ∈ (stepping (settle cache state)).map placeOf) :
          ∃ counts, cache.table? place.1 place.2 = some counts ∧ counts.numTokens + 1 < Size.half := by
        obtain ⟨entry, steps, rfl⟩ := List.mem_map.mp member
        obtain ⟨old, settled, active, -⟩ := mem_stepping.mp steps
        obtain ⟨found, live⟩ := settle_active settled active
        obtain ⟨counts, located, -⟩ := (Option.any_eq_true _ _).mp live
        exact ⟨counts, located, short _ _ old counts found active located⟩
      exact advance_ends (fun _ _ _ _ sound found short => reserve_ends word sound found short) (stepping_nodup _)
        sound tables (by simp [enough]) (by simp [scored]) _
  · exact ends_bind (ends_answer (ResultBuffer.ofSamples_proper _ _) sound) fun _ _ _ sound => sound

end EngineSettings

structure DecodeRow.Short (row : DecodeRow) : Prop where
  counted : row.generated ≤ row.tokens.length
  short : row.tokens.length < Size.half

theorem DecodeRow.short_free : DecodeRow.Short {} := ⟨Nat.le_refl 0, by decide⟩

theorem DecodeRow.StartsAt.isShort {row : DecodeRow} {start : Prefilled} {sample : Nat}
    (starts : row.StartsAt start sample) (short : start.context.length + 1 < Size.half) : row.Short := by
  obtain ⟨token, -, tokens⟩ := starts.first
  have length : row.tokens.length = start.context.length + 1 := by
    rw [tokens, List.length_append, List.length_singleton]
  exact ⟨by rw [starts.generated, length]; omega, by rwa [length]⟩

theorem DecodeRow.Short.push {row : DecodeRow} (kept : row.Short) (room : row.tokens.length + 1 < Size.half)
    (token : UInt32) (logProb : Float32) : (row.push token logProb).Short := by
  have length : (row.push token logProb).tokens.length = row.tokens.length + 1 := by
    rw [tokens_push, List.length_append, List.length_singleton]
  exact ⟨by rw [length]; exact Nat.succ_le_succ kept.counted, by rwa [length]⟩

structure DecodeState.Regular (settings : EngineSettings) (state : DecodeState) : Prop where
  grid : Grid settings.maxConcurrentDecodes settings.samplesPerSlot state.slots
  short : ∀ slot row entry, state.row? slot row = some entry → entry.Short

namespace EngineSettings

variable {settings : EngineSettings} {cache after : SlotBlocks} {start : Prefilled} {state next : DecodeState}
  {slot : Nat}

theorem freshState_regular (settings : EngineSettings) : settings.freshState.Regular settings := by
  refine ⟨DecodeState.fresh_grid _ _, fun slot row entry found => ?_⟩
  rw [DecodeState.row?_fresh found]
  exact DecodeRow.short_free

theorem insertRows_regular {requestId : Option RequestId} (sound : settings.Sound cache)
    (regular : state.Regular settings) (short : start.context.length + 1 < Size.half)
    (ok : settings.insertRows start state slot requestId cache = .ok next after) : next.Regular settings := by
  obtain ⟨grid, seeded, others⟩ := insertRows_rows sound regular.grid ok
  refine ⟨grid, fun other row entry found => ?_⟩
  by_cases here : other = slot
  · subst here
    obtain ⟨first, located, starts⟩ := seeded row (grid.inside found).2
    obtain rfl := Option.some.inj (located.symm.trans found)
    exact starts.isShort short
  · rw [others other row here] at found
    exact regular.short other row entry found

theorem insertEach_regular {slots : List Nat} (sound : settings.Sound cache) (regular : state.Regular settings)
    (short : start.context.length + 1 < Size.half)
    (ok : settings.insertEach start state slots cache = .ok next after) : next.Regular settings := by
  induction slots generalizing state cache with
  | nil =>
    cases ok
    exact regular
  | cons slot rest ih =>
    obtain ⟨middle, between, inserted, ok⟩ := bind_links ok
    have later := (sound_kept slot).insertRows settings start state none cache sound
    rw [inserted] at later
    exact ih later (insertRows_regular sound regular short inserted) ok

theorem settle_regular (regular : state.Regular settings) (cache : SlotBlocks) :
    (settle cache state).Regular settings := by
  refine ⟨settle_grid regular.grid, fun slot row entry found => ?_⟩
  rw [row?_settle] at found
  obtain ⟨old, located, rfl⟩ := Option.map_eq_some_iff.mp found
  split
  · exact DecodeRow.short_free
  · exact regular.short slot row old located

/-- A step gives each row one token at most. -/
theorem generate_regular {table : TransitionTable} {sampler : Option Sampler} {buffer : ResultBuffer}
    (regular : state.Regular settings)
    (room : ∀ slot row entry, state.row? slot row = some entry → entry.tokens.length + 1 < Size.half)
    (ok : settings.generate table state sampler cache = .ok (next, buffer) after) : next.Regular settings := by
  obtain ⟨stepped, -⟩ := generate_links ok
  have settled := settle_regular regular cache
  refine ⟨generate_grid regular.grid ok, fun slot row entry found => ?_⟩
  by_cases steps : (slot, row) ∈ (stepping (settle cache state)).map placeOf
  · obtain ⟨⟨slot', row', last⟩, member, same⟩ := List.mem_map.mp steps
    obtain ⟨rfl, rfl⟩ := Prod.mk.inj same
    obtain ⟨token, -, ⟨logProb, grown⟩, -, -⟩ := stepRows_stepped stepped _ member
    obtain ⟨old, present, active, -⟩ := mem_stepping.mp member
    rw [present, Option.map_some] at grown
    obtain rfl := Option.some.inj (grown.symm.trans found)
    exact (settled.short _ _ old present).push (room _ _ old (settle_active present active).1) token logProb
  · rw [((stepRows_links stepped).1 slot row steps).1] at found
    exact settled.short slot row entry found

end EngineSettings

end SlotServe
