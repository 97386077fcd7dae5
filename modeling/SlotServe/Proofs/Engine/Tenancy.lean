import SlotServe.Proofs.Engine.Bookkeeping
import SlotServe.Proofs.Result.SingleRows

/-! Whose tokens a slot decodes. The last insert or free that named the slot decides, and the steps since
then are counted. Each row of the slot holds the prompt of its tenant, then the first token and as many
successors as there were steps; a slot without a tenant shows zeros. Calls for other slots do not matter. -/
namespace SlotServe

abbrev Tenant := Option (Prefilled × Nat)

def EngineCall.follow (slot : Nat) (tenant : Tenant) : EngineCall → Tenant
  | .insert start target _ | .tryInsert start target _ => if slot = target then some (start, 0) else tenant
  | .insertAll start slots => if slot ∈ slots then some (start, 0) else tenant
  | .generate _ _ => tenant.map fun held => (held.1, held.2 + 1)
  | .free target => if slot = target then none else tenant

def EngineCall.tenant (slot : Nat) (calls : List EngineCall) : Tenant :=
  calls.foldl (EngineCall.follow slot) none

theorem EngineCall.tenant_concat (slot : Nat) (calls : List EngineCall) (call : EngineCall) :
    tenant slot (calls ++ [call]) = call.follow slot (tenant slot calls) := by
  rw [tenant, List.foldl_concat]
  rfl

structure DecodeRow.Continues (row : DecodeRow) (table : TransitionTable) (start : Prefilled)
    (sample steps : Nat) : Prop where
  active : row.active = true
  generated : row.generated = steps + 1
  tokens : ∃ first stream, start.firstTokens[sample]? = some first ∧ table.Derives first stream ∧
    stream.length = steps + 1 ∧ row.tokens = start.context ++ stream

namespace DecodeRow

variable {row : DecodeRow} {table : TransitionTable} {start : Prefilled} {sample steps : Nat}

theorem StartsAt.continues (starts : row.StartsAt start sample) (table : TransitionTable) :
    row.Continues table start sample 0 := by
  obtain ⟨first, located, tokens⟩ := starts.first
  exact ⟨starts.active, starts.generated, first, [first], located, .single table first, rfl, tokens⟩

namespace Continues

theorem last (continues : row.Continues table start sample steps) :
    ∃ first stream last, start.firstTokens[sample]? = some first ∧ table.stream (steps + 1) first = .ok stream ∧
      row.tokens = start.context ++ stream ∧ stream.getLast? = some last ∧ row.lastToken = some last := by
  obtain ⟨first, stream, located, derives, length, tokens⟩ := continues.tokens
  obtain ⟨last, ends⟩ := derives.ends
  have whole := derives.stream_eq (Nat.le_of_eq length.symm)
  rw [← length, List.take_length, length] at whole
  refine ⟨first, stream, last, located, whole, tokens, ends, ?_⟩
  rw [lastToken_eq, tokens, List.getLast?_append, ends]
  rfl

theorem push (continues : row.Continues table start sample steps) {token : UInt32} (logProb : Float32)
    (follows : table.successor (row.lastToken.getD 0) = .ok token) :
    (row.push token logProb).Continues table start sample (steps + 1) := by
  obtain ⟨first, stream, located, derives, length, tokens⟩ := continues.tokens
  obtain ⟨last, ends⟩ := derives.ends
  have standing : row.lastToken = some last := by
    rw [lastToken_eq, tokens, List.getLast?_append, ends]
    rfl
  rw [standing] at follows
  refine ⟨continues.active, congrArg (· + 1) continues.generated, first, stream ++ [token], located,
    derives.push ends follows, ?_, ?_⟩
  · rw [List.length_append, length]
    rfl
  · rw [tokens_push, tokens, List.append_assoc]

end Continues

theorem single_sample (row : DecodeRow) : row.sample.Single := by
  unfold sample
  split
  · exact RowSample.single_scored ..
  · exact RowSample.single_scored ..

theorem sample_idle (idle : row.active = false) : row.sample = (RowSample.single 0 false 0).withLogProb [0] := by
  simp [sample, idle]

theorem cells_active (active : row.active = true) {last : UInt32} (ends : row.lastToken = some last) :
    row.sample.cells = [last.toUInt64.toInt64, 1, Int64.ofNat row.generated] := by
  unfold sample
  rw [if_pos active, ends]
  rfl

end DecodeRow

def Held (table : TransitionTable) (state : DecodeState) (cache : SlotBlocks) (slot row : Nat) : Tenant → Prop
  | some (start, steps) => cache.isLive slot row = true ∧ ∃ entry, state.row? slot row = some entry ∧
      entry.Continues table start (start.sampleOf row) steps
  | none => cache.isLive slot row = false

theorem Held.frame {table : TransitionTable} {state next : DecodeState} {cache after : SlotBlocks} {slot row : Nat}
    {tenant : Tenant} (held : Held table state cache slot row tenant)
    (rows : next.row? slot row = state.row? slot row) (live : after.isLive slot row = cache.isLive slot row) :
    Held table next after slot row tenant := by
  cases tenant with
  | none => exact live.trans held
  | some held' =>
    obtain ⟨owning, entry, found, continues⟩ := held
    exact ⟨live.trans owning, entry, rows.trans found, continues⟩

namespace EngineSettings

variable {settings : EngineSettings} {cache after : SlotBlocks} {slot row : Nat} {start : Prefilled}
  {state next : DecodeState} {requestId : Option RequestId} {table : TransitionTable}

theorem insertRows_held (table : TransitionTable) (sound : settings.Sound cache)
    (grid : Grid settings.maxConcurrentDecodes settings.samplesPerSlot state.slots)
    (ok : settings.insertRows start state slot requestId cache = .ok next after)
    (other : Nat) (within : row < settings.samplesPerSlot) :
    if other = slot then Held table next after other row (some (start, 0))
    else next.row? other row = state.row? other row ∧ after.isLive other row = cache.isLive other row := by
  have sameBut : SlotBlocks.SameBut slot cache after := by
    have left := (sameBut_keptAt slot cache).insertRows settings start state requestId cache rfl
    rwa [ok] at left
  obtain ⟨-, seeded, others⟩ := insertRows_rows sound grid ok
  split
  next here =>
    subst other
    obtain ⟨entry, found, starts⟩ := seeded row within
    exact ⟨(insertRows_success ok).2.2 row within, entry, found, starts.continues table⟩
  next different => exact ⟨others other row different, sameBut.isLive different row⟩

structure Tenanted (settings : EngineSettings) (table : TransitionTable) (tenants : Nat → Tenant)
    (state : DecodeState) (cache : SlotBlocks) : Prop where
  sound : settings.Sound cache
  grid : Grid settings.maxConcurrentDecodes settings.samplesPerSlot state.slots
  held : ∀ slot < settings.maxConcurrentDecodes, ∀ row < settings.samplesPerSlot,
    Held table state cache slot row (tenants slot)

namespace Tenanted

variable {tenants : Nat → Tenant} (tenanted : settings.Tenanted table tenants state cache)

include tenanted

theorem inserted (ok : settings.insertRows start state slot requestId cache = .ok next after) :
    settings.Tenanted table (fun other => if other = slot then some (start, 0) else tenants other) next after := by
  have sound := (sound_kept slot).insertRows settings start state requestId cache tenanted.sound
  rw [ok] at sound
  obtain ⟨placed, -, -⟩ := insertRows_rows tenanted.sound tenanted.grid ok
  refine ⟨sound, placed, fun other inside row within => ?_⟩
  have effect := insertRows_held table tenanted.sound tenanted.grid ok other within
  by_cases here : other = slot
  · rw [if_pos here] at effect
    rwa [if_pos here]
  · rw [if_neg here] at effect
    rw [if_neg here]
    exact (tenanted.held other inside row within).frame effect.1 effect.2

theorem insertedEach {slots : List Nat} (ok : settings.insertEach start state slots cache = .ok next after) :
    settings.Tenanted table (fun other => if other ∈ slots then some (start, 0) else tenants other) next after := by
  induction slots generalizing state cache tenants with
  | nil =>
    cases ok
    simpa using tenanted
  | cons slot rest ih =>
    obtain ⟨between, middle, inserted, ok⟩ := bind_links ok
    have seated := ih (tenanted.inserted inserted) ok
    refine ⟨seated.sound, seated.grid, fun other inside row within => ?_⟩
    have held := seated.held other inside row within
    -- The last of the inserts that named the slot is the one that counts.
    by_cases later : other ∈ rest
    · rw [if_pos later] at held
      rwa [if_pos (List.mem_cons_of_mem slot later)]
    · rw [if_neg later] at held
      by_cases here : other = slot
      · rw [if_pos here] at held
        rwa [if_pos (List.mem_cons.mpr (.inl here))]
      · rw [if_neg here] at held
        rwa [if_neg (by simp [here, later])]

theorem freed (slot : Nat) :
    settings.Tenanted table (fun other => if other = slot then none else tenants other) state
      (left (settings.free slot cache)) := by
  obtain ⟨idle, others⟩ := free_vacates tenanted.sound slot
  have sound := (sound_kept slot).free settings cache tenanted.sound
  refine ⟨sound, tenanted.grid, fun other inside row within => ?_⟩
  split
  next here =>
    subst other
    exact idle row
  next different => exact (tenanted.held other inside row within).frame rfl (others other row different)

theorem generated {vocabulary : Nat} {cells : List UInt32} (square : table.Square vocabulary cells)
    {buffer : ResultBuffer} (ok : settings.generate table state none cache = .ok (next, buffer) after) :
    settings.Tenanted table (fun slot => (tenants slot).map fun held => (held.1, held.2 + 1)) next after := by
  have sound := sound_kept.generate settings table state none cache tenanted.sound
  have same : cache.SameLive (left (settings.generate table state none cache)) :=
    generate_sameLive table state none cache
  rw [ok] at sound same
  refine ⟨sound, generate_grid tenanted.grid ok, fun slot inside row within => ?_⟩
  have held := tenanted.held slot inside row within
  cases occupied : tenants slot with
  | none =>
    rw [occupied] at held
    exact (same slot row).trans held
  | some tenant =>
    obtain ⟨start, steps⟩ := tenant
    rw [occupied] at held
    obtain ⟨live, old, found, continues⟩ := held
    obtain ⟨token, logProb, follows, pushed, lives⟩ := generate_live square ok found continues.active live
    exact ⟨lives, _, pushed, continues.push logProb follows⟩

end Tenanted

section

variable {V : Type} (build : VocabularySource → Except Fault V)

/-- The calls that succeeded one after the other, with the state and the cache that they left. Steps
choose the likeliest token of one table. Between them inserts may be refused at slots without blocks. -/
inductive Course (settings : EngineSettings) (table : TransitionTable) :
    List EngineCall → DecodeState → SlotBlocks → Prop
  | start : Course settings table [] settings.freshState settings.freshCache
  | done {calls : List EngineCall} {call : EngineCall} {state next : DecodeState} {cache after : SlotBlocks}
      (course : Course settings table calls state cache)
      (greedy : ∀ other sampler, call = .generate other sampler → other = table ∧ sampler = none)
      (ok : call.perform (settings.executor build) state cache = .ok next after) :
      Course settings table (calls ++ [call]) next after
  | refused {calls : List EngineCall} {start : Prefilled} {slot : Nat} {requestId : Option RequestId} {fault : Fault}
      {state returned : DecodeState} {cache after : SlotBlocks} (course : Course settings table calls state cache)
      (idle : ∀ row, cache.isLive slot row = false)
      (refused : (settings.executor build).tryInsert start state slot requestId cache =
        .error ⟨fault, some returned⟩ after) :
      Course settings table calls returned after

variable {build} {calls : List EngineCall} {vocabulary : Nat} {cells : List UInt32}

theorem Tenanted.performed {tenants : Nat → Tenant} (tenanted : settings.Tenanted table tenants state cache)
    (square : table.Square vocabulary cells) {call : EngineCall}
    (greedy : ∀ other sampler, call = .generate other sampler → other = table ∧ sampler = none)
    (ok : call.perform (settings.executor build) state cache = .ok next after) :
    settings.Tenanted table (fun slot => call.follow slot (tenants slot)) next after := by
  have done := EngineCall.perform_success ok
  cases call with
  | insert start slot requestId | tryInsert start slot requestId => exact tenanted.inserted done
  | insertAll start slots => exact tenanted.insertedEach done
  | generate other sampler =>
    obtain ⟨rfl, rfl⟩ := greedy other sampler rfl
    obtain ⟨buffer, generated⟩ := done
    exact tenanted.generated square generated
  | free slot =>
    obtain ⟨rfl, freed⟩ := done
    have emptied := tenanted.freed slot
    rwa [freed] at emptied

theorem Tenanted.refused {tenants : Nat → Tenant} (tenanted : settings.Tenanted table tenants state cache)
    (idle : ∀ row, cache.isLive slot row = false) {fault : Fault}
    (refused : settings.tryInsertRows start state slot requestId cache = .error ⟨fault, some next⟩ after) :
    settings.Tenanted table tenants next after := by
  have sound := (sound_kept slot).tryInsertRows settings start state requestId cache tenanted.sound
  rw [refused] at sound
  obtain ⟨rfl, course⟩ := tryInsert_refused refused
  rcases course with ⟨rfl, -⟩ | ⟨emptied, -⟩
  · exact tenanted
  · refine ⟨sound, tenanted.grid, fun other inside row within => ?_⟩
    refine (tenanted.held other inside row within).frame rfl ?_
    by_cases here : other = slot
    · rw [here, idle, SlotBlocks.isLive_modify_cleared emptied]
    · exact (SlotBlocks.sameBut_of_cleared emptied).isLive here row

theorem Course.tenanted (square : table.Square vocabulary cells) (course : Course build settings table calls state cache) :
    settings.Tenanted table (EngineCall.tenant · calls) state cache := by
  induction course with
  | start =>
    refine ⟨freshCache_sound, DecodeState.fresh_grid _ _, fun slot _ row _ => ?_⟩
    exact SlotBlocks.isLive_fresh ..
  | done course greedy ok ih =>
    simp only [EngineCall.tenant_concat]
    exact ih.performed square greedy ok
  | refused course idle refused ih => exact ih.refused idle refused

/-- What a step shows of a row. With a tenant the row holds the prompt, the first token and a successor
for each step, and the buffer has the last of them; without one the buffer has zeros. -/
def Shown (table : TransitionTable) (next : DecodeState) (slot row : Nat) (cells : Option (List Int64))
    (logProbs : Option (List UInt32)) : Tenant → Prop
  | some (start, steps) => ∃ first stream entry last, start.firstTokens[start.sampleOf row]? = some first ∧
      table.stream (steps + 1) first = .ok stream ∧ next.row? slot row = some entry ∧ entry.active = true ∧
      entry.tokens = start.context ++ stream ∧ entry.tokens.getLast? = some last ∧
      cells = some [last.toUInt64.toInt64, 1, Int64.ofNat (steps + 1)]
  | none => cells = some [0, 0, 0] ∧ logProbs = some [0]

/-- Each step shows of every row what the calls that named its slot make of it, whatever happened in
the other slots. -/
theorem rows_follow_tenants (valid : settings.validate = .ok ()) (square : table.Square vocabulary cells)
    (course : Course build settings table calls state cache) {buffer : ResultBuffer}
    (ok : (settings.executor build).generate table state none cache = .ok (next, buffer) after) :
    ∃ rows logProbs, buffer.data.rowsI64 = .ok rows ∧ buffer.logProb.map (·.rowsF32) = some (.ok logProbs) ∧
      ∀ slot < settings.maxConcurrentDecodes, ∀ row < settings.samplesPerSlot,
        Shown table next slot row rows[slot * settings.samplesPerSlot + row]?
          logProbs[slot * settings.samplesPerSlot + row]?
          (EngineCall.tenant slot (calls ++ [.generate table none])) := by
  have ok : settings.generate table state none cache = .ok (next, buffer) after := ok
  have before := course.tenanted square
  have tenanted := before.generated square ok
  obtain ⟨-, packed⟩ := generate_links ok
  have single : ∀ sample ∈ next.rows.map (·.sample), sample.Single := by
    intro sample member
    obtain ⟨entry, -, rfl⟩ := List.mem_map.mp member
    exact entry.single_sample
  have slots : 0 < settings.maxConcurrentDecodes := size_of_valid valid (List.mem_cons_self ..)
  have samples : 0 < settings.samplesPerSlot :=
    size_of_valid valid (show ("samples_per_slot", _) ∈ settings.sizes by simp [sizes])
  have length : (next.rows.map (·.sample)).length = settings.maxConcurrentDecodes * settings.samplesPerSlot := by
    rw [List.length_map, DecodeState.rows, tenanted.grid.uniform.length_flatten, tenanted.grid.height]
  have some : next.rows.map (·.sample) ≠ [] := by
    refine List.ne_nil_of_length_pos ?_
    rw [length]
    exact Nat.mul_pos slots samples
  rw [ResultBuffer.ofSamples_singles single some samples ⟨_, length.trans (Nat.mul_comm ..)⟩] at packed
  obtain rfl := Except.ok.inj packed
  refine ⟨_, _, ResultBuffer.rows_ofSingles single, ResultBuffer.logProbs_ofSingles single, ?_⟩
  intro slot inside row within
  -- The rows of a slot lie next to each other in the batch.
  have located : next.rows[slot * settings.samplesPerSlot + row]? = next.row? slot row :=
    tenanted.grid.getElem?_flatten inside within
  simp only [List.map_map, List.getElem?_map, located, EngineCall.tenant_concat]
  have held := before.held slot inside row within
  have continued := tenanted.held slot inside row within
  cases occupied : EngineCall.tenant slot calls with
  | none =>
    rw [occupied] at held
    obtain ⟨old, present⟩ := before.grid.entry inside within
    obtain ⟨rest, found, idle⟩ := generate_idle ok present fun _ => held
    rw [found, Option.map_some, Option.map_some, Function.comp_apply, Function.comp_apply, rest.sample_idle idle]
    exact ⟨rfl, rfl⟩
  | some tenant =>
    obtain ⟨start, steps⟩ := tenant
    rw [occupied] at continued
    obtain ⟨-, entry, found, continues⟩ := continued
    obtain ⟨first, stream, last, located, streamed, tokens, ends, standing⟩ := continues.last
    refine ⟨first, stream, entry, last, located, streamed, found, continues.active, tokens, ?_, ?_⟩
    · rw [← entry.lastToken_eq, standing]
    · rw [found, Option.map_some, Function.comp_apply, entry.cells_active continues.active standing,
        continues.generated]

end

def shared : EngineSettings :=
  { maxConcurrentDecodes := 2, vocabSize := 2, blockSize := 4, numBlocks := 2 }

def sharedPoint : DecodeState × SlotBlocks :=
  shared.afterCalls (fun _ => .ok ())
    [.insert ⟨[0], [1], [0], none⟩ 0 none, .tryInsert ⟨[0, 0, 0, 0], [1], [0], none⟩ 1 none]

def swapping : TransitionTable := ⟨⟨[2, 2], .ofReals [0, 1, 1, 0]⟩⟩

theorem rows_follow_lone_tenant :
    ∃ (next : DecodeState) (buffer : ResultBuffer) (after : SlotBlocks) (rows : List (List Int64))
      (logProbs : List (List UInt32)),
      (shared.executor fun _ => Except.ok ()).generate swapping sharedPoint.1 none sharedPoint.2 =
        .ok (next, buffer) after ∧ buffer.data.rowsI64 = .ok rows ∧
      Shown swapping next 0 0 rows[0]? logProbs[0]? (some (⟨[0], [1], [0], none⟩, 1)) ∧
      rows[1]? = some [0, 0, 0] := by
  have seated : Course (fun _ => Except.ok ()) shared swapping [.insert ⟨[0], [1], [0], none⟩ 0 none]
      sharedPoint.1 (shared.afterCalls (fun _ => Except.ok ()) [.insert ⟨[0], [1], [0], none⟩ 0 none]).2 :=
    .done .start (fun _ _ same => by cases same) rfl
  have course : Course (fun _ => Except.ok ()) shared swapping [.insert ⟨[0], [1], [0], none⟩ 0 none]
      sharedPoint.1 sharedPoint.2 := by
    refine .refused seated (fun row => ?_) (rfl : (shared.executor fun _ => Except.ok ()).tryInsert
      ⟨[0, 0, 0, 0], [1], [0], none⟩ _ 1 none _ = .error ⟨.blocks (.outOfBlocks 2 1), some _⟩ _)
    cases row <;> rfl
  have stepped : (match (shared.executor fun _ => Except.ok ()).generate swapping sharedPoint.1 none sharedPoint.2
      with
      | .ok _ _ => true
      | .error _ _ => false) = true := by decide +kernel
  cases ended : (shared.executor fun _ => Except.ok ()).generate swapping sharedPoint.1 none sharedPoint.2 with
  | error => simp [ended] at stepped
  | ok found after =>
    obtain ⟨next, buffer⟩ := found
    obtain ⟨rows, logProbs, read, -, shown⟩ := rows_follow_tenants rfl ⟨rfl, rfl⟩ course ended
    refine ⟨next, buffer, after, rows, logProbs, rfl, read, ?_, ?_⟩
    · exact shown 0 (by decide) 0 (by decide)
    · exact (shown 1 (by decide) 0 (by decide)).1

end EngineSettings

end SlotServe
