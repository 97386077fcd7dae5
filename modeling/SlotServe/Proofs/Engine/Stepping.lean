import SlotServe.Proofs.Block.Liveness
import SlotServe.Proofs.Engine.Generate
import SlotServe.Proofs.Engine.Successor

/-! What a decode step does to each row. An active row that owns blocks gets the token that follows its
last one and keeps owning blocks, an active row without blocks becomes free, and a free row stays so. -/
namespace SlotServe

namespace DecodeState

variable (state : DecodeState) (slot row slot' row' : Nat)

theorem row?_modifyRow (change : DecodeRow → DecodeRow) :
    (state.modifyRow slot row change).row? slot' row' =
      if slot' = slot ∧ row' = row then (state.row? slot row).map change else state.row? slot' row' := by
  unfold row? modifyRow
  rw [List.getElem?_modify]
  by_cases slots : slot = slot'
  · subst slot'
    cases state.slots[slot]? with
    | none => simp
    | some rows =>
      by_cases same : row = row'
      · subst row'
        simp
      · simp [same, Ne.symm same]
  · simp [slots, Ne.symm slots]

theorem row?_setSlot {slot : Nat} (inside : slot < state.slots.length) (rows : List DecodeRow) :
    (state.setSlot slot rows).row? slot' row' =
      if slot' = slot then rows[row']? else state.row? slot' row' := by
  unfold row? setSlot
  by_cases same : slot = slot'
  · subst slot'
    simp [inside]
  · simp [same, Ne.symm same]

end DecodeState

def TransitionTable.Picks (table : TransitionTable) (sampler : Option Sampler) (token : UInt32) : Prop :=
  ∃ tokens scores picked, table.rowsOf tokens = .ok scores ∧ pickTokens scores sampler = .ok picked ∧ token ∈ picked

namespace EngineSettings

variable {cache after : SlotBlocks} {state next : DecodeState} {slot row : Nat}

theorem row?_settle (cache : SlotBlocks) (state : DecodeState) (slot row : Nat) :
    (settle cache state).row? slot row = (state.row? slot row).map fun old =>
      if old.active && !cache.isLive slot row then {} else old := by
  unfold DecodeState.row? settle
  simp only [List.getElem?_map, List.getElem?_zipIdx, Nat.zero_add]
  cases state.slots[slot]? with
  | none => rfl
  | some rows =>
    simp only [Option.map_some, Option.bind_some, List.getElem?_map, List.getElem?_zipIdx, Nat.zero_add]
    cases rows[row]? <;> rfl

theorem settle_grid {numSlots samples : Nat} (grid : Grid numSlots samples state.slots) :
    Grid numSlots samples (settle cache state).slots := by
  refine ⟨by simp [settle, grid.height], ?_⟩
  refine ofWidth_map fun rows member => ?_
  simpa using grid.uniform rows.1 (List.fst_mem_of_mem_zipIdx member)

theorem mem_stepping {token : UInt32} :
    (slot, row, token) ∈ stepping state ↔
      ∃ old, state.row? slot row = some old ∧ old.active = true ∧ old.lastToken.getD 0 = token := by
  simp only [stepping, List.mem_flatMap, List.mem_map, List.mem_filter, Prod.exists, Prod.mk.injEq,
    List.mk_mem_zipIdx_iff_getElem?, DecodeState.row?, Option.bind_eq_some_iff]
  constructor
  · rintro ⟨rows, _, present, old, _, ⟨located, active⟩, rfl, rfl, rfl⟩
    exact ⟨old, ⟨rows, present, located⟩, active, rfl⟩
  · rintro ⟨old, ⟨rows, present, located⟩, active, rfl⟩
    exact ⟨rows, slot, present, old, row, ⟨located, active⟩, rfl, rfl, rfl⟩

def placeOf (entry : Nat × Nat × UInt32) : Nat × Nat := (entry.1, entry.2.1)

theorem stepping_nodup (state : DecodeState) : ((stepping state).map placeOf).Nodup := by
  rw [List.Nodup, List.pairwise_map, stepping, List.pairwise_flatMap]
  constructor
  · rintro ⟨rows, slot⟩ _
    rw [List.pairwise_map]
    refine ((zipIdx_pairwise rows).sublist List.filter_sublist).imp ?_
    rintro ⟨_, row⟩ ⟨_, row'⟩ different same
    exact different (Prod.mk.inj same).2
  · refine (zipIdx_pairwise state.slots).imp ?_
    rintro ⟨rows, slot⟩ ⟨rows', slot'⟩ different entry member entry' member'
    obtain ⟨_, _, rfl⟩ := List.mem_map.mp member
    obtain ⟨_, _, rfl⟩ := List.mem_map.mp member'
    exact fun same => different (Prod.mk.inj same).1

structure Stepped (state next : DecodeState) (cache after : SlotBlocks) (slot row : Nat) (token : UInt32) : Prop where
  pushed : ∃ logProb, next.row? slot row = (state.row? slot row).map (·.push token logProb)
  live : after.isLive slot row = true
  counted : ∃ table granted, cache.table? slot row = some table ∧
    after.table? slot row = some (table.grown granted 1)

structure Grows (state next : DecodeState) (cache after : SlotBlocks) (slot row : Nat) (token : UInt32)
    (logProb : Float32) : Prop where
  pushed : next.row? slot row = (state.row? slot row).map (·.push token logProb)
  live : after.isLive slot row = true
  counted : ∃ table granted, cache.table? slot row = some table ∧
    after.table? slot row = some (table.grown granted 1) ∧ granted.length = table.wanted 1

theorem Grows.stepped {token : UInt32} {logProb : Float32} (grows : Grows state next cache after slot row token logProb) :
    Stepped state next cache after slot row token := by
  obtain ⟨table, granted, found, taken, -⟩ := grows.counted
  exact ⟨⟨logProb, grows.pushed⟩, grows.live, table, granted, found, taken⟩

/-- Advancing leaves all other rows alone, and each row that it names grows by the token at its place. -/
theorem advance_grows {places : List (Nat × Nat)} {tokens : List UInt32} {logProbs : List Float32}
    (distinct : places.Nodup) (ok : advance state places tokens logProbs cache = .ok next after) :
    (∀ slot row, (slot, row) ∉ places →
      next.row? slot row = state.row? slot row ∧ after.table? slot row = cache.table? slot row) ∧
    places.length ≤ tokens.length ∧
    ∀ (place : Nat) (slot row : Nat), places[place]? = some (slot, row) → ∃ token logProb, tokens[place]? = some token ∧
      logProbs[place]? = some logProb ∧ Grows state next cache after slot row token logProb := by
  induction places generalizing state tokens logProbs cache with
  | nil =>
    cases ok
    exact ⟨fun _ _ _ => ⟨rfl, rfl⟩, Nat.zero_le _, by simp⟩
  | cons place rest ih =>
    obtain ⟨slot, row⟩ := place
    match tokens, logProbs with
    | [], _ =>
      obtain ⟨_, _, _, ok⟩ := bind_links ok
      cases ok
    | _ :: _, [] =>
      obtain ⟨_, _, _, ok⟩ := bind_links ok
      cases ok
    | token :: tokens, logProb :: logProbs =>
      obtain ⟨_, between, reserved, ok⟩ := bind_links ok
      simp only [List.nodup_cons] at distinct
      obtain ⟨others, enough, named⟩ := ih distinct.2 ok
      have framed (slot' row' : Nat) (other : ¬(slot' = slot ∧ row' = row)) :
          (left (SlotBlocks.reserve slot row 1 cache)).table? slot' row' = cache.table? slot' row' :=
        SlotBlocks.table?_reserve other
      rw [reserved] at framed
      refine ⟨fun slot' row' outside => ?_, Nat.succ_le_succ enough, fun place slot' row' found => ?_⟩
      · simp only [List.mem_cons, Prod.mk.injEq, not_or] at outside
        obtain ⟨same, table⟩ := others slot' row' outside.2
        rw [same, table, DecodeState.row?_modifyRow, if_neg outside.1]
        exact ⟨rfl, framed slot' row' outside.1⟩
      · cases place with
        | zero =>
          cases found
          obtain ⟨same, kept⟩ := others slot row distinct.1
          obtain ⟨table, granted, found, taken, exact⟩ := SlotBlocks.reserve_granted reserved
          refine ⟨token, logProb, rfl, rfl, ?_, ?_, table, granted, found, kept.trans taken, exact⟩
          · rw [same, DecodeState.row?_modifyRow, if_pos ⟨rfl, rfl⟩]
          · rw [SlotBlocks.isLive, kept]
            exact SlotBlocks.isLive_reserve (by omega) reserved
        | succ place =>
          -- No place is named twice, so growing this one first does not matter to the later ones.
          have different : ¬(slot' = slot ∧ row' = row) := by
            rintro ⟨rfl, rfl⟩
            exact distinct.1 (List.mem_of_getElem? found)
          obtain ⟨token', logProb', chosen, scored, grown⟩ := named place slot' row' found
          obtain ⟨table, granted, counted, taken, exact⟩ := grown.counted
          refine ⟨token', logProb', chosen, scored, ?_, grown.live, table, granted,
            (framed slot' row' different).symm.trans counted, taken, exact⟩
          rw [grown.pushed, DecodeState.row?_modifyRow, if_neg different]

/-- Each row that is named takes its step. -/
theorem advance_success {places : List (Nat × Nat)} {tokens : List UInt32} {logProbs : List Float32}
    (distinct : places.Nodup) (ok : advance state places tokens logProbs cache = .ok next after) :
    (∀ slot row, (slot, row) ∉ places →
      next.row? slot row = state.row? slot row ∧ after.table? slot row = cache.table? slot row) ∧
    places.length ≤ tokens.length ∧
    ∀ slot row token, ((slot, row), token) ∈ places.zip tokens → Stepped state next cache after slot row token := by
  obtain ⟨others, enough, grows⟩ := advance_grows distinct ok
  refine ⟨others, enough, fun slot row token member => ?_⟩
  obtain ⟨place, both⟩ := List.mem_iff_getElem?.mp member
  obtain ⟨named, chosen⟩ := List.getElem?_zip_eq_some.mp both
  obtain ⟨_, _, same, -, grown⟩ := grows place slot row named
  obtain rfl := Option.some.inj (chosen.symm.trans same)
  exact grown.stepped

theorem advance_grid {numSlots samples : Nat} {places : List (Nat × Nat)} {tokens : List UInt32}
    {logProbs : List Float32} (grid : Grid numSlots samples state.slots)
    (ok : advance state places tokens logProbs cache = .ok next after) :
    Grid numSlots samples next.slots := by
  induction places generalizing state tokens logProbs cache with
  | nil =>
    cases ok
    exact grid
  | cons place rest ih =>
    obtain ⟨slot, row⟩ := place
    match tokens, logProbs with
    | [], _ =>
      obtain ⟨_, _, _, ok⟩ := bind_links ok
      cases ok
    | _ :: _, [] =>
      obtain ⟨_, _, _, ok⟩ := bind_links ok
      cases ok
    | token :: tokens, logProb :: logProbs =>
      obtain ⟨_, between, _, ok⟩ := bind_links ok
      exact ih (grid.modify slot fun rows => List.length_modify ..) ok

variable {table : TransitionTable} {vocabulary : Nat} {cells : List UInt32}

/-- The rows that step take their steps with the tokens that follow theirs, and the others stay. -/
theorem stepRows_links {sampler : Option Sampler} (ok : stepRows table state sampler cache = .ok next after) :
    (∀ slot row, (slot, row) ∉ (stepping state).map placeOf →
      next.row? slot row = state.row? slot row ∧ after.table? slot row = cache.table? slot row) ∧
    ∃ tokens, (stepping state).length ≤ tokens.length ∧
      (stepping state ≠ [] → ∃ logProbs,
        nextTokens table sampler ((stepping state).map (·.2.2)) = .ok (tokens, logProbs)) ∧
      ∀ entry token, (entry, token) ∈ (stepping state).zip tokens →
        Stepped state next cache after entry.1 entry.2.1 token := by
  unfold stepRows at ok
  dsimp only at ok
  split at ok
  next empty =>
    cases ok
    rw [List.isEmpty_iff.mp empty]
    exact ⟨fun _ _ _ => ⟨rfl, rfl⟩, [], Nat.le_refl 0, fun some => absurd rfl some, by simp⟩
  next =>
    obtain ⟨⟨tokens, logProbs⟩, _, choosing, advanced⟩ := bind_links ok
    obtain ⟨chosen, rfl⟩ := answer_success choosing
    obtain ⟨others, enough, named⟩ := advance_success (stepping_nodup state) advanced
    refine ⟨others, tokens, by simpa using enough, fun _ => ⟨logProbs, chosen⟩, fun entry token member => ?_⟩
    have placed : (placeOf entry, token) ∈ ((stepping state).map placeOf).zip tokens := by
      rw [List.zip_map_left]
      exact List.mem_map.mpr ⟨_, member, rfl⟩
    exact named _ _ _ placed

theorem stepRows_stepped {sampler : Option Sampler} (ok : stepRows table state sampler cache = .ok next after) :
    ∀ entry ∈ stepping state, ∃ token, table.Picks sampler token ∧
      Stepped state next cache after entry.1 entry.2.1 token := by
  intro entry member
  obtain ⟨-, tokens, enough, chosen, stepped⟩ := stepRows_links ok
  obtain ⟨logProbs, chosen⟩ := chosen (List.ne_nil_of_mem member)
  obtain ⟨scores, looked, afterLook⟩ := except_links chosen
  obtain ⟨picked, picking, afterPick⟩ := except_links afterLook
  obtain ⟨_, _, done⟩ := except_links afterPick
  cases done
  obtain ⟨token, opposite⟩ := zip_opposite enough member
  exact ⟨token, ⟨_, _, _, looked, picking, (List.of_mem_zip opposite).2⟩, stepped entry token opposite⟩

theorem stepRows_success (square : table.Square vocabulary cells)
    (ok : stepRows table state none cache = .ok next after) :
    ∀ entry ∈ stepping state, ∃ token, table.successor entry.2.2 = .ok token ∧
      Stepped state next cache after entry.1 entry.2.1 token := by
  intro entry member
  obtain ⟨-, tokens, -, chosen, stepped⟩ := stepRows_links ok
  obtain ⟨logProbs, chosen⟩ := chosen (List.ne_nil_of_mem member)
  obtain ⟨scores, looked, afterLook⟩ := except_links chosen
  obtain ⟨picked, picking, afterPick⟩ := except_links afterLook
  obtain ⟨_, _, done⟩ := except_links afterPick
  cases done
  have follow := square.pickTokens_successor looked picking
  rw [List.forall₂_map_left_iff] at follow
  obtain ⟨token, opposite, follows⟩ := forall₂_opposite follow member
  exact ⟨token, follows, stepped entry token opposite⟩

variable {settings : EngineSettings} {buffer : ResultBuffer} {old : DecodeRow}

theorem generate_links {sampler : Option Sampler}
    (ok : settings.generate table state sampler cache = .ok (next, buffer) after) :
    stepRows table (settle cache state) sampler cache = .ok next after ∧
      ResultBuffer.ofSamples (next.rows.map (·.sample)) settings.samplesPerSlot = .ok buffer := by
  rw [generate_eq] at ok
  obtain ⟨stepped, between, stepping, writing⟩ := bind_links ok
  obtain ⟨written, _, packing, done⟩ := bind_links writing
  obtain ⟨packed, rfl⟩ := answer_success packing
  cases done
  exact ⟨stepping, packed⟩

theorem settle_live (found : state.row? slot row = some old) (active : old.active = true)
    (live : cache.isLive slot row = true) :
    (settle cache state).row? slot row = some old ∧
      (slot, row, old.lastToken.getD 0) ∈ stepping (settle cache state) := by
  have settled : (settle cache state).row? slot row = some old := by
    rw [row?_settle, found, Option.map_some, live, active]
    rfl
  exact ⟨settled, mem_stepping.mpr ⟨old, settled, active, rfl⟩⟩

theorem generate_picks {sampler : Option Sampler}
    (ok : settings.generate table state sampler cache = .ok (next, buffer) after)
    (found : state.row? slot row = some old) (active : old.active = true)
    (live : cache.isLive slot row = true) :
    ∃ token logProb, table.Picks sampler token ∧ next.row? slot row = some (old.push token logProb) := by
  obtain ⟨settled, steps⟩ := settle_live found active live
  obtain ⟨token, picks, ⟨logProb, grown⟩, -, -⟩ := stepRows_stepped (generate_links ok).1 _ steps
  rw [settled] at grown
  exact ⟨token, logProb, picks, grown⟩

/-- A row that is active and owns blocks gets the successor of its last token, and still owns blocks. -/
theorem generate_live (square : table.Square vocabulary cells)
    (ok : settings.generate table state none cache = .ok (next, buffer) after)
    (found : state.row? slot row = some old) (active : old.active = true)
    (live : cache.isLive slot row = true) :
    ∃ token logProb, table.successor (old.lastToken.getD 0) = .ok token ∧
      next.row? slot row = some (old.push token logProb) ∧ after.isLive slot row = true := by
  obtain ⟨settled, steps⟩ := settle_live found active live
  obtain ⟨token, follows, ⟨logProb, grown⟩, lives, -⟩ := stepRows_success square (generate_links ok).1 _ steps
  rw [settled] at grown
  exact ⟨token, logProb, follows, grown, lives⟩

theorem generate_idle {sampler : Option Sampler}
    (ok : settings.generate table state sampler cache = .ok (next, buffer) after)
    (found : state.row? slot row = some old) (idle : old.active = true → cache.isLive slot row = false) :
    ∃ rest, next.row? slot row = some rest ∧ rest.active = false := by
  obtain ⟨stepped, _⟩ := generate_links ok
  obtain ⟨rest, settled, stopped⟩ : ∃ rest, (settle cache state).row? slot row = some rest ∧
      rest.active = false := by
    rw [row?_settle, found]
    refine ⟨_, rfl, ?_⟩
    cases active : old.active with
    | false => simp [active]
    | true => simp [idle active, active]
  have outside : (slot, row) ∉ (stepping (settle cache state)).map placeOf := by
    intro member
    obtain ⟨⟨_, _, token⟩, stepping, same⟩ := List.mem_map.mp member
    cases same
    obtain ⟨other, located, active, _⟩ := mem_stepping.mp stepping
    obtain rfl := Option.some.inj (settled.symm.trans located)
    rw [stopped] at active
    cases active
  exact ⟨rest, ((stepRows_links stepped).1 slot row outside).1.trans settled, stopped⟩

theorem stepRows_grid {numSlots samples : Nat} {sampler : Option Sampler} (grid : Grid numSlots samples state.slots)
    (ok : stepRows table state sampler cache = .ok next after) : Grid numSlots samples next.slots := by
  unfold stepRows at ok
  dsimp only at ok
  split at ok
  next =>
    cases ok
    exact grid
  next =>
    obtain ⟨_, _, _, advanced⟩ := bind_links ok
    exact advance_grid grid advanced

theorem generate_grid {numSlots samples : Nat} {sampler : Option Sampler} (grid : Grid numSlots samples state.slots)
    (ok : settings.generate table state sampler cache = .ok (next, buffer) after) :
    Grid numSlots samples next.slots :=
  stepRows_grid (settle_grid grid) (generate_links ok).1

end EngineSettings

end SlotServe
