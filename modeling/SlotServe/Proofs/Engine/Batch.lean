import SlotServe.Proofs.Engine.Capacity

/-! The batch of a decode step. The last tokens of the rows that are active and own blocks are gathered, slot
after slot; one token is chosen for each of them; and the rows take their tokens in the same order, each with a
further block if its own are full. -/
namespace SlotServe

def SlotBlocks.isFull (cache : SlotBlocks) (slot row : Nat) : Bool := (cache.table? slot row).any (·.isFull)

namespace EngineSettings

structure Runner where
  slot : Nat
  row : Nat
  entry : DecodeRow

namespace Runner

def place (runner : Runner) : Nat × Nat := (runner.slot, runner.row)

def last (runner : Runner) : UInt32 := runner.entry.lastToken.getD 0

end Runner

def running (cache : SlotBlocks) (state : DecodeState) : List Runner :=
  state.slots.zipIdx.flatMap fun slot =>
    (slot.1.zipIdx.filter fun row => row.1.active && cache.isLive slot.2 row.2).map fun row =>
      ⟨slot.2, row.2, row.1⟩

variable {settings : EngineSettings} {cache after : SlotBlocks} {state next : DecodeState} {slot row : Nat}
  {runner : Runner}

theorem mem_running : runner ∈ running cache state ↔ state.row? runner.slot runner.row = some runner.entry ∧
    runner.entry.active = true ∧ cache.isLive runner.slot runner.row = true := by
  obtain ⟨slot, row, entry⟩ := runner
  simp only [running, List.mem_flatMap, List.mem_map, List.mem_filter, Prod.exists, Runner.mk.injEq,
    List.mk_mem_zipIdx_iff_getElem?, DecodeState.row?, Option.bind_eq_some_iff, Bool.and_eq_true]
  constructor
  · rintro ⟨rows, _, present, old, _, ⟨located, active, live⟩, rfl, rfl, rfl⟩
    exact ⟨⟨rows, present, located⟩, active, live⟩
  · rintro ⟨⟨rows, present, located⟩, active, live⟩
    exact ⟨rows, slot, present, entry, row, ⟨located, active, live⟩, rfl, rfl, rfl⟩

theorem stepping_settle (cache : SlotBlocks) (state : DecodeState) :
    stepping (settle cache state) = (running cache state).map fun runner => (runner.slot, runner.row, runner.last) := by
  unfold stepping settle running
  dsimp only
  rw [zipIdx_map_zipIdx, List.flatMap_map, List.map_flatMap]
  refine List.flatMap_congr fun slot _ => ?_
  dsimp only
  rw [zipIdx_map_zipIdx, List.filter_map, List.map_map, List.map_map]
  -- A row is settled unless it runs, and the rows that run are left as they are.
  have kept : (slot.1.zipIdx.filter ((fun row => row.1.active) ∘ fun row : DecodeRow × Nat =>
      (if row.1.active && !cache.isLive slot.2 row.2 then {} else row.1, row.2))) =
      slot.1.zipIdx.filter fun row => row.1.active && cache.isLive slot.2 row.2 := by
    refine List.filter_congr fun row _ => ?_
    dsimp only [Function.comp_apply]
    cases active : row.1.active <;> cases cache.isLive slot.2 row.2 <;> simp [active]
  rw [kept]
  refine List.map_congr_left fun row member => ?_
  have live := (List.mem_filter.mp member).2
  simp_all [Runner.last]

/-- Each place in which a further block is wanted takes one out of the pool. -/
theorem advance_room {places : List (Nat × Nat)} {tokens : List UInt32} {logProbs : List Float32}
    {blockSize numBlocks : Nat} (accounted : cache.Accounted blockSize numBlocks) (distinct : places.Nodup)
    (ready : ∀ place ∈ places, ∃ table, cache.table? place.1 place.2 = some table ∧ table.Countable numBlocks 1)
    (enough : places.length ≤ tokens.length) (scored : places.length ≤ logProbs.length) (state : DecodeState) :
    Hinges (places.countP (fun place => cache.isFull place.1 place.2) ≤ cache.pool.numFree)
      (advance state places tokens logProbs cache) := by
  induction places generalizing cache state tokens logProbs with
  | nil => exact .inl ⟨Nat.zero_le _, state, cache, rfl⟩
  | cons place rest ih =>
    obtain ⟨slot, row⟩ := place
    match tokens, logProbs, enough, scored with
    | token :: tokens, logProb :: logProbs, enough, scored =>
      rw [List.nodup_cons] at distinct
      obtain ⟨table, found, countable⟩ := ready (slot, row) (by simp)
      have wants := (accounted.snug slot row table found).wanted_one
      have full : cache.isFull slot row = table.isFull := by
        rw [SlotBlocks.isFull, found]
        rfl
      have first := accounted.reserve_eq found countable
      rw [List.countP_cons, full, ← wants]
      by_cases enough' : table.wanted 1 ≤ cache.pool.numFree
      · rw [if_pos enough'] at first
        -- The first row takes its block, and the others want as many as before.
        have framed (place : Nat × Nat) (member : place ∈ rest) :
            (cache.granting slot row 1 table).table? place.1 place.2 = cache.table? place.1 place.2 := by
          have kept : (left (SlotBlocks.reserve slot row 1 cache)).table? place.1 place.2 =
              cache.table? place.1 place.2 :=
            SlotBlocks.table?_reserve fun same => distinct.1 ((Prod.ext same.1 same.2 : place = (slot, row)) ▸ member)
          rwa [first] at kept
        have later := ih (accounted.granting found enough') distinct.2
          (fun place member => by
            rw [framed place member]
            exact ready place (List.mem_cons_of_mem _ member))
          (Nat.le_of_succ_le_succ enough) (Nat.le_of_succ_le_succ scored)
          (state.modifyRow slot row (·.push token logProb))
        have counts : rest.countP (fun place => (cache.granting slot row 1 table).isFull place.1 place.2) =
            rest.countP fun place => cache.isFull place.1 place.2 :=
          List.countP_congr fun place member => by rw [SlotBlocks.isFull, SlotBlocks.isFull, framed place member]
        have links : advance state ((slot, row) :: rest) (token :: tokens) (logProb :: logProbs) cache =
            advance (state.modifyRow slot row (·.push token logProb)) rest tokens logProbs
              (cache.granting slot row 1 table) := bind_ok _ first
        rw [counts, SlotBlocks.numFree_granting] at later
        rw [links]
        exact later.imp (And.imp_left fun room => by omega) (And.imp_left fun short => by omega)
      · rw [if_neg enough'] at first
        exact .inr ⟨by omega, _, _, bind_error _ first, rfl⟩

variable {table : TransitionTable} {vocabulary : Nat} {cells : List UInt32} {sampler : Option Sampler}

def scores (vocabulary : Nat) (cells : List UInt32) (cache : SlotBlocks) (state : DecodeState) :
    List (List UInt32) :=
  (running cache state).map fun runner => scoreRow vocabulary cells runner.last

structure Chosen (vocabulary : Nat) (cells : List UInt32) (cache : SlotBlocks) (state : DecodeState)
    (sampler : Option Sampler) (tokens : List UInt32) : Prop where
  each : tokens.length = (running cache state).length
  answered : running cache state ≠ [] → choice sampler vocabulary (scores vocabulary cells cache state) = .ok tokens

theorem stepRows_settle (table : TransitionTable) (state : DecodeState) (sampler : Option Sampler)
    (cache : SlotBlocks) :
    stepRows table (settle cache state) sampler =
      if running cache state = [] then pure (settle cache state)
      else answer (nextTokens table sampler ((running cache state).map Runner.last)) >>= fun found =>
        advance (settle cache state) ((running cache state).map Runner.place) found.1 found.2 := by
  unfold stepRows
  dsimp only
  rw [stepping_settle, List.map_map, List.map_map, List.isEmpty_map]
  cases running cache state <;> rfl

theorem stepRows_iff (square : table.Square vocabulary cells) :
    stepRows table (settle cache state) sampler cache = .ok next after ↔
      (∀ runner ∈ running cache state, runner.last.toNat < vocabulary) ∧
        ∃ tokens, Chosen vocabulary cells cache state sampler tokens ∧
          advance (settle cache state) ((running cache state).map Runner.place) tokens
            (List.zipWith Sampling.tokenLogProb (scores vocabulary cells cache state) tokens) cache =
              .ok next after := by
  rw [stepRows_settle]
  -- With nobody running neither the table nor the sampler is asked.
  by_cases none : running cache state = []
  · rw [if_pos none, none]
    constructor
    · intro ok
      exact ⟨nofun, [], ⟨by rw [none]; rfl, fun some => absurd none some⟩, ok⟩
    · rintro ⟨-, tokens, -, ok⟩
      exact ok
  · rw [if_neg none]
    have some : (running cache state).map Runner.last ≠ [] := by simpa using none
    have rows : ((running cache state).map Runner.last).map (scoreRow vocabulary cells) =
        scores vocabulary cells cache state := List.map_map ..
    constructor
    · intro ok
      obtain ⟨⟨tokens, logProbs⟩, _, choosing, advanced⟩ := bind_links ok
      obtain ⟨chosen, rfl⟩ := answer_success choosing
      obtain ⟨_, looked, -⟩ := except_links chosen
      have inside := square.rowsOf_inside looked
      rw [nextTokens_eq square some inside, rows] at chosen
      obtain ⟨picked, picking, checked⟩ := except_links chosen
      split at checked
      next each =>
        cases checked
        refine ⟨by simpa using inside, tokens, ⟨by simpa using each, fun _ => ofTensor_success picking⟩, advanced⟩
      next => cases checked
    · rintro ⟨inside, tokens, chosen, advanced⟩
      have inside : ∀ token ∈ (running cache state).map Runner.last, token.toNat < vocabulary := by simpa using inside
      have next := nextTokens_eq square some inside sampler
      rw [rows, chosen.answered none] at next
      have each : tokens.length = ((running cache state).map Runner.last).length := by
        rw [List.length_map, chosen.each]
      change _ = if tokens.length = _ then _ else _ at next
      rw [if_pos each] at next
      rw [next]
      exact advanced

theorem running_nodup (cache : SlotBlocks) (state : DecodeState) :
    ((running cache state).map Runner.place).Nodup := by
  have distinct := stepping_nodup (settle cache state)
  rwa [stepping_settle, List.map_map] at distinct

section

variable (kept : settings.Bookkept state cache) (sized : 0 < settings.blockSize)

include kept sized

/-- The table of a row that runs counts its tokens. -/
theorem table_running (member : runner ∈ running cache state) :
    ∃ counts, cache.table? runner.slot runner.row = some counts ∧
      counts.numTokens = runner.entry.tokens.length ∧ counts.blockSize = settings.blockSize := by
  obtain ⟨present, active, live⟩ := mem_running.mp member
  obtain ⟨inside, within⟩ := kept.grid.inside present
  obtain ⟨counts, found⟩ := kept.level.sound.shaped.found inside within
  have owned : counts.blocks ≠ [] := by simpa [SlotBlocks.isLive, found, BlockTable.isEmpty] using live
  have snug := kept.level.sound.accounted.snug _ _ counts found
  exact ⟨counts, found, (kept.tracked _ _ runner.entry counts present found active owned).1,
    snug.sized.trans (Nat.max_eq_left sized)⟩

theorem isFull_running (member : runner ∈ running cache state) :
    cache.isFull runner.slot runner.row = (runner.entry.tokens.length % settings.blockSize == 0) := by
  obtain ⟨counts, found, exact, size⟩ := table_running kept sized member
  rw [SlotBlocks.isFull, found, Option.any_some, BlockTable.isFull, exact, size]

/-- The rows that run can all take a token just when the free blocks suffice for those whose own are full. -/
theorem running_room (word : settings.blockSize < Size.limit)
    (short : ∀ runner ∈ running cache state, runner.entry.tokens.length + 1 ≤ Size.half) {tokens : List UInt32}
    {logProbs : List Float32} (each : (running cache state).length ≤ tokens.length)
    (scored : (running cache state).length ≤ logProbs.length) :
    Hinges ((running cache state).countP (fun runner => runner.entry.tokens.length % settings.blockSize == 0) ≤
        cache.pool.numFree)
      (advance (settle cache state) ((running cache state).map Runner.place) tokens logProbs cache) := by
  have ready : ∀ place ∈ (running cache state).map Runner.place, ∃ counts,
      cache.table? place.1 place.2 = some counts ∧ counts.Countable settings.numBlocks 1 := by
    intro place member
    obtain ⟨runner, runs, rfl⟩ := List.mem_map.mp member
    obtain ⟨counts, found, exact, -⟩ := table_running kept sized runs
    have snug := kept.level.sound.accounted.snug _ _ counts found
    have storable : counts.Storable 1 := snug.storable word (by rw [exact]; exact short runner runs)
    exact ⟨counts, found, storable.bounded snug _⟩
  have room := advance_room kept.level.sound.accounted (running_nodup cache state) ready (by simpa using each)
    (by simpa using scored) (settle cache state)
  rw [List.countP_map] at room
  have full : (running cache state).countP ((fun place => cache.isFull place.1 place.2) ∘ Runner.place) =
      (running cache state).countP fun runner => runner.entry.tokens.length % settings.blockSize == 0 :=
    List.countP_congr fun runner member => by
      rw [Function.comp_apply, Runner.place, isFull_running kept sized member]
  rwa [full] at room

end

/-- What a step makes of the rows and their tables when these tokens are chosen for the rows that run. -/
structure HandsOn (settings : EngineSettings) (state next : DecodeState) (cache after : SlotBlocks)
    (vocabulary : Nat) (cells : List UInt32) (tokens : List UInt32) : Prop where
  stepped : ∀ (place : Nat) (runner : Runner), (running cache state)[place]? = some runner →
    ∃ token counts granted, tokens[place]? = some token ∧
      next.row? runner.slot runner.row = some (runner.entry.push token
        ((Sampling.logSoftmax ((scoreRow vocabulary cells runner.last).map Float32.ofBits)).getD token.toNat
          Binary32.negativeInfinity)) ∧
      cache.table? runner.slot runner.row = some counts ∧
      after.table? runner.slot runner.row =
        some { counts with blocks := counts.blocks ++ granted, numTokens := counts.numTokens + 1 } ∧
      granted.length = if runner.entry.tokens.length % settings.blockSize = 0 then 1 else 0
  stopped : ∀ slot row old, state.row? slot row = some old → old.active = true → cache.isLive slot row = false →
    next.row? slot row = some {}
  still : ∀ slot row old, state.row? slot row = some old → old.active = false → next.row? slot row = some old
  framed : ∀ slot row, (slot, row) ∉ (running cache state).map Runner.place →
    after.table? slot row = cache.table? slot row

theorem not_running {old : DecodeRow} (found : state.row? slot row = some old)
    (idle : old.active = true → cache.isLive slot row = false) :
    (slot, row) ∉ (running cache state).map Runner.place := by
  intro member
  obtain ⟨runner, runs, same⟩ := List.mem_map.mp member
  cases same
  obtain ⟨present, active, live⟩ := mem_running.mp runs
  obtain rfl := Option.some.inj (found.symm.trans present)
  exact Bool.false_ne_true ((idle active).symm.trans live)

theorem handsOn_of_advance (kept : settings.Bookkept state cache) (sized : 0 < settings.blockSize)
    {tokens : List UInt32}
    (ok : advance (settle cache state) ((running cache state).map Runner.place) tokens
      (List.zipWith Sampling.tokenLogProb (scores vocabulary cells cache state) tokens) cache = .ok next after) :
    settings.HandsOn state next cache after vocabulary cells tokens := by
  obtain ⟨others, -, grown⟩ := advance_grows (running_nodup cache state) ok
  refine ⟨fun place runner found => ?_, fun slot row old found active idle => ?_, fun slot row old found idle => ?_,
    fun slot row outside => (others slot row outside).2⟩
  · have member := List.mem_of_getElem? found
    obtain ⟨present, active, live⟩ := mem_running.mp member
    have located : ((running cache state).map Runner.place)[place]? = some (runner.slot, runner.row) := by
      rw [List.getElem?_map, found]
      rfl
    obtain ⟨token, logProb, chosen, scored, grows⟩ := grown place _ _ located
    obtain ⟨counts, granted, counted, taken, exact⟩ := grows.counted
    rw [List.getElem?_zipWith, scores, List.getElem?_map, found, chosen] at scored
    obtain rfl : Sampling.tokenLogProb (scoreRow vocabulary cells runner.last) token = logProb :=
      Option.some.inj scored
    refine ⟨token, counts, granted, chosen, ?_, counted, taken, ?_⟩
    · rw [grows.pushed, (settle_live present active live).1, Option.map_some, Sampling.tokenLogProb_eq]
    · have full := isFull_running kept sized member
      rw [SlotBlocks.isFull, counted, Option.any_some] at full
      rw [exact, (kept.level.sound.accounted.snug _ _ counts counted).wanted_one, full]
      simp only [beq_iff_eq]
  · rw [(others slot row (not_running found fun _ => idle)).1, row?_settle, found, Option.map_some, active, idle]
    rfl
  · rw [(others slot row (not_running found fun active => absurd active (by simp [idle]))).1, row?_settle, found,
      Option.map_some, idle]
    rfl

/-- The rows of the buffer are those of the decode state, slot after slot, and zeros where one is free. -/
def ShowsRows (settings : EngineSettings) (next : DecodeState) (buffer : ResultBuffer) : Prop :=
  ∃ rows, buffer.data.rowsI64 = .ok rows ∧
    rows.length = settings.maxConcurrentDecodes * settings.samplesPerSlot ∧
    ∀ slot < settings.maxConcurrentDecodes, ∀ row < settings.samplesPerSlot, ∃ entry,
      next.row? slot row = some entry ∧
      rows[slot * settings.samplesPerSlot + row]? = some
        (if entry.active then [(entry.lastToken.getD 0).toUInt64.toInt64, 1, Int64.ofNat entry.generated]
          else [0, 0, 0])

theorem cells_sample (entry : DecodeRow) : entry.sample.cells =
    if entry.active then [(entry.lastToken.getD 0).toUInt64.toInt64, 1, Int64.ofNat entry.generated]
    else [0, 0, 0] := by
  unfold DecodeRow.sample
  split <;> rfl

section

variable (slots : 0 < settings.maxConcurrentDecodes) (positive : 0 < settings.samplesPerSlot)
  (grid : Grid settings.maxConcurrentDecodes settings.samplesPerSlot next.slots)

include slots positive grid

theorem showsRows_ofSamples {buffer : ResultBuffer}
    (ok : ResultBuffer.ofSamples (next.rows.map (·.sample)) settings.samplesPerSlot = .ok buffer) :
    settings.ShowsRows next buffer := by
  have single : ∀ sample ∈ next.rows.map (·.sample), sample.Single := by
    intro sample member
    obtain ⟨entry, -, rfl⟩ := List.mem_map.mp member
    exact entry.single_sample
  rw [ofSamples_rows slots positive grid] at ok
  obtain rfl := Except.ok.inj ok
  refine ⟨_, ResultBuffer.rows_ofSingles single, ?_, fun slot inside row within => ?_⟩
  · rw [List.length_map, length_rows grid]
  · obtain ⟨entry, found⟩ := grid.entry inside within
    have located : next.rows[slot * settings.samplesPerSlot + row]? = some entry :=
      (grid.getElem?_flatten inside within).trans found
    refine ⟨entry, found, ?_⟩
    rw [List.getElem?_map, List.getElem?_map, located, Option.map_some, Option.map_some, cells_sample]

end

theorem generate_ok (slots : 0 < settings.maxConcurrentDecodes) (positive : 0 < settings.samplesPerSlot)
    (grid : Grid settings.maxConcurrentDecodes settings.samplesPerSlot state.slots)
    (ok : stepRows table (settle cache state) sampler cache = .ok next after) :
    ∃ buffer, settings.generate table state sampler cache = .ok (next, buffer) after := by
  have later := stepRows_grid (settle_grid grid) ok
  rw [generate_eq, bind_ok _ ok]
  unfold writeRows
  rw [ofSamples_rows slots positive later]
  exact ⟨_, rfl⟩

/-- Samplers that answer the batch alike make the step come out alike. -/
theorem generate_sampler (square : table.Square vocabulary cells) {other : Option Sampler}
    (same : running cache state ≠ [] → choice other vocabulary (scores vocabulary cells cache state) =
      choice sampler vocabulary (scores vocabulary cells cache state)) :
    settings.generate table state other cache = settings.generate table state sampler cache := by
  have stepped : stepRows table (settle cache state) other = stepRows table (settle cache state) sampler := by
    rw [stepRows_settle, stepRows_settle]
    by_cases none : running cache state = []
    · rw [if_pos none, if_pos none]
    · have next : nextTokens table other ((running cache state).map Runner.last) =
          nextTokens table sampler ((running cache state).map Runner.last) := by
        cases looked : table.rowsOf ((running cache state).map Runner.last) with
        | error fault =>
          unfold nextTokens
          rw [looked]
          rfl
        | ok found =>
          have inside := square.rowsOf_inside looked
          have some : (running cache state).map Runner.last ≠ [] := by simpa using none
          have rows : ((running cache state).map Runner.last).map (scoreRow vocabulary cells) =
              scores vocabulary cells cache state := List.map_map ..
          rw [nextTokens_eq square some inside, nextTokens_eq square some inside, rows, same none]
      rw [if_neg none, if_neg none, next]
  rw [generate_eq, generate_eq, stepped]

section

variable (valid : settings.validate = .ok ()) (kept : settings.Bookkept state cache)
  (square : table.Square vocabulary cells)

include valid kept square

/-- What a step hangs on: scores for the last tokens, as many answers of the sampler, and enough free blocks. -/
theorem generate_ok_iff (word : settings.blockSize < Size.limit)
    (short : ∀ runner ∈ running cache state, runner.entry.tokens.length + 1 ≤ Size.half) :
    (∃ next buffer after, settings.generate table state sampler cache = .ok (next, buffer) after) ↔
      (∀ runner ∈ running cache state, runner.last.toNat < vocabulary) ∧
        (running cache state ≠ [] → ∃ tokens,
          choice sampler vocabulary (scores vocabulary cells cache state) = .ok tokens ∧
            tokens.length = (running cache state).length) ∧
        (running cache state).countP (fun runner => runner.entry.tokens.length % settings.blockSize == 0) ≤
          cache.pool.numFree := by
  have slots : 0 < settings.maxConcurrentDecodes := size_of_valid valid (List.mem_cons_self ..)
  have samples : 0 < settings.samplesPerSlot :=
    size_of_valid valid (show ("samples_per_slot", _) ∈ settings.sizes by simp [sizes])
  have sized : 0 < settings.blockSize :=
    size_of_valid valid (show ("block_size", _) ∈ settings.sizes by simp [sizes])
  have scored (tokens : List UInt32) (each : tokens.length = (running cache state).length) :
      (running cache state).length ≤
        (List.zipWith Sampling.tokenLogProb (scores vocabulary cells cache state) tokens).length := by
    rw [List.length_zipWith, scores, List.length_map, each, Nat.min_self]
  constructor
  · rintro ⟨next, buffer, after, ok⟩
    obtain ⟨inside, tokens, chosen, advanced⟩ := (stepRows_iff square).mp (generate_links ok).1
    refine ⟨inside, fun some => ⟨tokens, chosen.answered some, chosen.each⟩, ?_⟩
    rcases running_room kept sized word short chosen.each.ge (scored tokens chosen.each) with
      ⟨enough, -⟩ | ⟨-, fault, between, lacking, -⟩
    · exact enough
    · cases advanced.symm.trans lacking
  · rintro ⟨inside, answers, enough⟩
    obtain ⟨tokens, chosen⟩ : ∃ tokens, Chosen vocabulary cells cache state sampler tokens := by
      by_cases none : running cache state = []
      · exact ⟨[], by rw [none]; rfl, fun some => absurd none some⟩
      · obtain ⟨tokens, answered, each⟩ := answers none
        exact ⟨tokens, each, fun _ => answered⟩
    rcases running_room kept sized word short chosen.each.ge (scored tokens chosen.each) with
      ⟨-, next, after, advanced⟩ | ⟨lacking, -⟩
    · obtain ⟨buffer, ok⟩ :=
        generate_ok slots samples kept.grid ((stepRows_iff square).mpr ⟨inside, tokens, chosen, advanced⟩)
      exact ⟨next, buffer, after, ok⟩
    · exact absurd enough lacking

theorem generate_handsOn {buffer : ResultBuffer}
    (ok : settings.generate table state sampler cache = .ok (next, buffer) after) :
    ∃ tokens, Chosen vocabulary cells cache state sampler tokens ∧
      settings.HandsOn state next cache after vocabulary cells tokens ∧ settings.ShowsRows next buffer := by
  have slots : 0 < settings.maxConcurrentDecodes := size_of_valid valid (List.mem_cons_self ..)
  have samples : 0 < settings.samplesPerSlot :=
    size_of_valid valid (show ("samples_per_slot", _) ∈ settings.sizes by simp [sizes])
  have sized : 0 < settings.blockSize :=
    size_of_valid valid (show ("block_size", _) ∈ settings.sizes by simp [sizes])
  obtain ⟨stepped, packed⟩ := generate_links ok
  obtain ⟨-, tokens, chosen, advanced⟩ := (stepRows_iff square).mp stepped
  have later := stepRows_grid (settle_grid kept.grid) stepped
  exact ⟨tokens, chosen, handsOn_of_advance kept sized advanced, showsRows_ofSamples slots samples later packed⟩

end

/-- A step of the rows that are active and own blocks, after any calls with prompts that prefills answered. It
succeeds just when their last tokens have scores, the sampler answers a token for each of them, and the free
blocks suffice for those whose own blocks are full. The sampler has a say through its answer to their score rows
only, and none when there are no such rows. Then each of them takes its token, the other active rows become
free, and all else stays. A block size is a machine word, and a list of tokens is no longer than memory can
address. -/
theorem running_rows_step_together {V : Type} (build : VocabularySource → Except Fault V)
    (valid : settings.validate = .ok ()) (word : settings.blockSize < Size.limit) (calls : List EngineCall)
    (returned : ∀ call ∈ calls, ∀ start ∈ call.starts,
      settings.Returns start ∧ Size.addressable start.context.length 4 = true)
    (threaded : settings.afterCalls build calls = (state, cache))
    (addressable : ∀ slot row entry, state.row? slot row = some entry →
      Size.addressable entry.tokens.length 4 = true)
    (square : table.Square vocabulary cells) (sampler : Option Sampler) :
    ((∃ next buffer after, (settings.executor build).generate table state sampler cache = .ok (next, buffer) after) ↔
      (∀ runner ∈ running cache state, runner.last.toNat < vocabulary) ∧
        (running cache state ≠ [] → ∃ tokens,
          choice sampler vocabulary (scores vocabulary cells cache state) = .ok tokens ∧
            tokens.length = (running cache state).length) ∧
        (running cache state).countP (fun runner => runner.entry.tokens.length % settings.blockSize == 0) ≤
          cache.pool.numFree) ∧
    (∀ other, (running cache state ≠ [] →
        choice other vocabulary (scores vocabulary cells cache state) =
          choice sampler vocabulary (scores vocabulary cells cache state)) →
      (settings.executor build).generate table state other cache =
        (settings.executor build).generate table state sampler cache) ∧
    ∀ next buffer after, (settings.executor build).generate table state sampler cache = .ok (next, buffer) after →
      ∃ tokens, Chosen vocabulary cells cache state sampler tokens ∧
        settings.HandsOn state next cache after vocabulary cells tokens ∧ settings.ShowsRows next buffer := by
  have kept : settings.Bookkept state cache := by
    have fit (call : EngineCall) (member : call ∈ calls) (start : Prefilled) (started : start ∈ call.starts) :
        start.Fit ∧ start.context ≠ [] := by
      obtain ⟨returns, short⟩ := returned call member start started
      exact ⟨⟨returns.scored.2, short⟩, returns.scored.1⟩
    have fresh : settings.Bookkept settings.freshState settings.freshCache := bookkept_fresh freshCache_level
    have after : settings.Bookkept (settings.afterCalls build calls).1 (settings.afterCalls build calls).2 :=
      fresh.calls word fit
    rwa [threaded] at after
  have short (runner : Runner) (member : runner ∈ running cache state) :
      runner.entry.tokens.length + 1 ≤ Size.half := by
    have bytes := addressable _ _ _ (mem_running.mp member).1
    have half : Size.half = 0x8000000000000000 := rfl
    have short : runner.entry.tokens.length * 4 < 0x8000000000000000 := by simpa [Size.addressable] using bytes
    omega
  exact ⟨generate_ok_iff valid kept square word short, fun other same => generate_sampler square same,
    fun next buffer after ok => generate_handsOn valid kept square ok⟩

def roomy : EngineSettings := { crowded with numBlocks := 4 }

theorem full_rows_step_together : ∃ start state cache next buffer after entry, roomy.Returns start ∧
    roomy.afterCalls (fun _ => .ok ()) [.insert start 0 none] = (state, cache) ∧
      (roomy.executor fun _ => .ok ()).generate ⟨⟨[2, 2], .ofReals [0, 1, 1, 0]⟩⟩ state
        (some fun _ => .ok ⟨[2], .u32 [0, 1]⟩) cache = .ok (next, buffer) after ∧
      next.row? 0 1 = some entry ∧ entry.tokens = [1, 1, 1] ∧ roomy.ShowsRows next buffer := by
  have prefilled : roomy.passes ⟨⟨[2, 2], .ofReals [0, 1, 1, 0]⟩⟩
      { padded := .ofTokens [1], trueLength := 1, sampler := some fun _ => .ok ⟨[1], .u32 [1]⟩ } (fun start =>
        let point := roomy.afterCalls (fun _ => .ok ()) [.insert start 0 none]
        decide (start.context = [1] ∧ (∀ runner ∈ running point.2 point.1, runner.last.toNat < 2) ∧
          (running point.2 point.1).length = 2 ∧
          (running point.2 point.1).countP (fun runner => runner.entry.tokens.length % 2 == 0) ≤
            point.2.pool.numFree ∧
          (∀ rows ∈ point.1.slots, ∀ row ∈ rows, Size.addressable row.tokens.length 4 = true) ∧
          ((running point.2 point.1)[1]?.map fun runner => (runner.slot, runner.row, runner.entry.tokens)) =
            some (0, 1, [1, 1]))) = true := by decide +kernel
  obtain ⟨start, returns, passed⟩ := returns_of_passes prefilled
  obtain ⟨context, inside, two, enough, short, second⟩ := of_decide_eq_true passed
  generalize threaded : roomy.afterCalls (fun _ => .ok ()) [.insert start 0 none] = point at *
  obtain ⟨state, cache⟩ := point
  have square : TransitionTable.Square ⟨⟨[2, 2], .ofReals [0, 1, 1, 0]⟩⟩ 2
      ([0, 1, 1, 0].map Float32.toBits) := ⟨rfl, rfl⟩
  obtain ⟨⟨-, steps⟩, -, outcome⟩ := running_rows_step_together (fun _ => .ok ()) rfl (by decide)
    [.insert start 0 none] (fun call member other started => by
      obtain rfl := List.mem_singleton.mp member
      obtain rfl := List.mem_singleton.mp started
      rw [context]
      exact ⟨returns, by decide⟩)
    threaded (fun slot row entry found => by
      obtain ⟨rows, present, located⟩ := Option.bind_eq_some_iff.mp found
      exact short rows (List.mem_of_getElem? present) entry (List.mem_of_getElem? located))
    square (some fun _ => .ok ⟨[2], .u32 [0, 1]⟩)
  obtain ⟨next, buffer, after, ok⟩ := steps ⟨inside, fun _ => ⟨[0, 1], rfl, two.symm⟩, enough⟩
  obtain ⟨tokens, chosen, handed, shown⟩ := outcome next buffer after ok
  obtain ⟨runner, located, same⟩ := Option.map_eq_some_iff.mp second
  simp only [Prod.mk.injEq] at same
  obtain ⟨slot, row, held⟩ := same
  obtain ⟨token, counts, granted, named, pushed, -⟩ := handed.stepped 1 runner located
  have answered := chosen.answered (List.ne_nil_of_mem (List.mem_of_getElem? located))
  obtain rfl : [0, 1] = tokens := Except.ok.inj answered
  obtain rfl : (1 : UInt32) = token := Option.some.inj named
  rw [slot, row] at pushed
  refine ⟨start, state, cache, next, buffer, after, _, returns, threaded, ok, pushed, ?_, shown⟩
  rw [DecodeRow.tokens_push, held]
  rfl

end EngineSettings

end SlotServe
