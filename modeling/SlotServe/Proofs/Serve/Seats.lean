import SlotServe.Proofs.Engine.Seeding
import SlotServe.Proofs.Serve.Admission

/-! A request in a slot. Each row of the slot stands at the last token of its sample, and the tokens of
the sample follow each other in the table. What happens in other slots does not touch these rows. -/
namespace SlotServe

variable {V : Type} {settings : EngineSettings}

structure Decoding (table : TransitionTable) (state : DecodeState) (cache : SlotBlocks) (slot row : Nat)
    (first : UInt32) (sample : Transcript) : Prop where
  derived : table.Derives first sample.tokens
  standing : ∃ entry, state.row? slot row = some entry ∧ entry.active = true ∧
    entry.lastToken = sample.tokens.getLast?
  live : cache.isLive slot row = true

section

variable (scheduler : Scheduler (Front SlotBlocks) TransitionTable Prefilled DecodeState V)
  (attempts : List (Attempt Prefilled))

structure Scheduler.Admitted (request : Request) (slot : Nat) (start : Prefilled) : Prop where
  attempt : ⟨start, slot, some request.id, true⟩ ∈ attempts
  prefilled : ∃ tried first, ∀ engine, scheduler.prefillAfter tried request engine = .ok (start, first) engine
  greedy : scheduler.executor.limits.samplesPerSlot = 1 → ∃ last next,
    request.prompt.getLast? = some last ∧ scheduler.model.successor last = .ok next ∧ start.firstTokens = [next]

structure Scheduler.Seated (state : DecodeState) (cache : SlotBlocks) (slot : Nat) (occupant : Occupant)
    (start : Prefilled) : Prop where
  admitted : scheduler.Admitted attempts occupant.request slot start
  count : start.firstTokens.length = scheduler.executor.limits.samplesPerSlot
  width : occupant.samples.length = start.firstTokens.length
  rows : ∀ row first sample, start.firstTokens[row]? = some first → occupant.samples[row]? = some sample →
    Decoding scheduler.model state cache slot row first sample

/-- The completion is of this request, and holds the stream of each first token that its prefill
answered. -/
structure Scheduler.Fulfils (completion : Completion) (request : Request) : Prop where
  id : completion.id = request.id
  promptLength : completion.promptLength = request.prompt.length
  count : completion.samples.length = scheduler.executor.limits.samplesPerSlot
  long : ∀ stream ∈ completion.samples, stream.length = request.maxNewTokens
  streams : ∃ start, scheduler.Admitted attempts request completion.slot start ∧
    List.Forall₂ (fun first stream => scheduler.model.stream request.maxNewTokens first = .ok stream)
      start.firstTokens completion.samples

end

theorem DecodeRow.sample_content {entry : DecodeRow} {token : UInt32} (active : entry.active = true)
    (last : entry.lastToken = some token) : entry.sample.content = ([token], [true]) := by
  rw [sample, if_pos active, last]
  rfl

theorem EngineSettings.absorb_generated {table : TransitionTable} {state next : DecodeState}
    {cache after : SlotBlocks} {buffer : ResultBuffer} {slot : Nat} {occupant grown : Occupant}
    (grid : Grid settings.maxConcurrentDecodes settings.samplesPerSlot state.slots)
    (generated : settings.generate table state none cache = .ok (next, buffer) after)
    (absorbed : occupant.absorb buffer slot = .ok grown) :
    ∃ read, grown = { occupant with samples := Occupant.append occupant.samples read } ∧
      ∀ row entry token, next.row? slot row = some entry → entry.active = true →
        entry.lastToken = some token → ∃ shown, read[row]? = some shown ∧ shown.validTokens = [token] := by
  obtain ⟨width, packs⟩ := ResultBuffer.ofSamples_packs (generate_links generated).2
  obtain ⟨inside, read, rfl, content⟩ := Occupant.absorb_success packs absorbed
  refine ⟨read, rfl, fun row entry token present active last => ?_⟩
  obtain ⟨entries, home, place⟩ := Option.bind_eq_some_iff.mp present
  -- The samples of a slot are a stretch of all samples, and the stretch is cut out of the rows of the slot.
  have part : ((next.rows.map (·.sample)).drop (slot * settings.samplesPerSlot)).take settings.samplesPerSlot =
      entries.map (·.sample) := by
    rw [← List.map_drop, ← List.map_take, DecodeState.rows, (generate_grid grid generated).flatten_row home]
  have opposite := congrArg (·[row]?) content
  simp only [part, List.getElem?_map, place, Option.map_some] at opposite
  obtain ⟨shown, found, carries⟩ := Option.map_eq_some_iff.mp opposite
  exact ⟨shown, found, RowSample.validTokens_of_content (carries.trans (DecodeRow.sample_content active last))⟩

namespace Scheduler

variable {scheduler : Scheduler (Front SlotBlocks) TransitionTable Prefilled DecodeState V}
  {attempts more : List (Attempt Prefilled)} {state next : DecodeState} {cache after : SlotBlocks}
  {slot : Nat} {occupant : Occupant} {start : Prefilled} {request : Request} {completion : Completion}

theorem Admitted.mono (admitted : scheduler.Admitted attempts request slot start) (grown : attempts ⊆ more) :
    scheduler.Admitted more request slot start :=
  { admitted with attempt := grown admitted.attempt }

theorem Fulfils.mono (fulfils : scheduler.Fulfils attempts completion request) (grown : attempts ⊆ more) :
    scheduler.Fulfils more completion request := by
  obtain ⟨start, admitted, streams⟩ := fulfils.streams
  exact { fulfils with streams := ⟨start, admitted.mono grown, streams⟩ }

theorem Seated.mono (seated : scheduler.Seated attempts state cache slot occupant start)
    (grown : attempts ⊆ more) (rows : ∀ row, next.row? slot row = state.row? slot row)
    (tables : ∀ row, after.table? slot row = cache.table? slot row) :
    scheduler.Seated more next after slot occupant start := by
  refine ⟨seated.admitted.mono grown, seated.count, seated.width, fun row first sample located present => ?_⟩
  obtain ⟨derived, standing, live⟩ := seated.rows row first sample located present
  refine ⟨derived, ?_, ?_⟩
  · rwa [rows]
  · rwa [SlotBlocks.isLive, tables]

theorem Seated.fulfils (seated : scheduler.Seated attempts state cache slot occupant start)
    (done : occupant.isDone = true) :
    scheduler.Fulfils attempts (occupant.completion slot) occupant.request := by
  have streams : List.Forall₂
      (fun first stream => scheduler.model.stream occupant.request.maxNewTokens first = .ok stream)
      start.firstTokens (occupant.completion slot).samples := by
    have sized : start.firstTokens.length = (occupant.completion slot).samples.length := by
      rw [Occupant.completion, List.length_map, seated.width]
    refine List.forall₂_iff_get.mpr ⟨sized, fun row inside within => ?_⟩
    have bound : row < occupant.samples.length := by rwa [seated.width]
    have decoding := seated.rows row _ _ (List.getElem?_eq_getElem inside) (List.getElem?_eq_getElem bound)
    have enough := List.all_eq_true.mp done _ (List.getElem_mem bound)
    rw [decide_eq_true_eq, ← Transcript.length_tokens] at enough
    have stream := decoding.derived.stream_eq enough
    simpa [Occupant.completion] using stream
  refine ⟨rfl, rfl, ?_, ?_, start, seated.admitted, streams⟩
  · rw [← streams.length_eq, seated.count]
  · intro stream member
    obtain ⟨first, -, derived⟩ := forall₂_opposite streams.flip member
    exact TransitionTable.length_of_stream derived

theorem seated_of_insert {first : ResultBuffer} (admitted : scheduler.Admitted attempts request slot start)
    (limits : scheduler.executor.limits = settings.limits)
    (grid : Grid settings.maxConcurrentDecodes settings.samplesPerSlot state.slots)
    (shows : first.Shows start.firstTokens settings.samplesPerSlot)
    (inserted : settings.tryInsertRows start state slot (some request.id) cache = .ok next after)
    (taken : scheduler.takeUp request first = .ok occupant) :
    occupant.request = request ∧ scheduler.Seated attempts next after slot occupant start := by
  obtain ⟨inside, fits, ⟨rows, seeded, rfl⟩, live⟩ := EngineSettings.tryInsert_success inserted
  have samples : scheduler.executor.limits.samplesPerSlot = settings.samplesPerSlot := by rw [limits]; rfl
  obtain ⟨rfl, count, tokens⟩ := takeUp_success (samples ▸ shows) (samples ▸ fits) taken
  rw [samples] at count
  obtain ⟨size, stands⟩ := EngineSettings.seedRows_success seeded
  refine ⟨rfl, admitted, count.trans samples.symm, ?_, fun row token sample located present => ?_⟩
  · simpa using congrArg List.length tokens
  · have within : row < settings.samplesPerSlot := by
      rw [← count]
      exact (List.getElem?_eq_some_iff.mp located).1
    have holds : sample.tokens = [token] := by
      have opposite := congrArg (·[row]?) tokens
      simpa [present, located] using opposite
    have bound : row < rows.length := by rwa [size]
    have starts := stands row rows[row] (List.getElem?_eq_getElem bound)
    have last := starts.lastToken
    have own : (if start.firstTokens.length = 1 then 0 else 0 + row) = row := by split <;> omega
    rw [own, located] at last
    refine ⟨?_, ⟨rows[row], ?_, starts.active, ?_⟩, live row within⟩
    · rw [holds]
      exact .single _ token
    · rw [DecodeState.row?_setSlot _ _ _ (by rwa [grid.height]), if_pos rfl]
      exact List.getElem?_eq_getElem bound
    · rw [last, holds]
      rfl

theorem Seated.step (seated : scheduler.Seated attempts state cache slot occupant start)
    {vocabulary : Nat} {cells : List UInt32} (square : scheduler.model.Square vocabulary cells)
    (grid : Grid settings.maxConcurrentDecodes settings.samplesPerSlot state.slots) {buffer : ResultBuffer}
    (generated : settings.generate scheduler.model state none cache = .ok (next, buffer) after)
    {grown : Occupant} (absorbed : occupant.absorb buffer slot = .ok grown) :
    scheduler.Seated attempts next after slot grown start := by
  obtain ⟨read, rfl, shows⟩ := EngineSettings.absorb_generated grid generated absorbed
  refine ⟨seated.admitted, seated.count, (Occupant.length_append _ _).trans seated.width, ?_⟩
  intro row first sample located present
  have bound : row < occupant.samples.length := by
    rw [← Occupant.length_append occupant.samples read]
    exact (List.getElem?_eq_some_iff.mp present).1
  have before := List.getElem?_eq_getElem bound
  obtain ⟨derived, ⟨entry, found, active, stands⟩, live⟩ := seated.rows row first _ located before
  obtain ⟨token, logProb, follows, pushed, lives⟩ :=
    EngineSettings.generate_live square generated found active live
  obtain ⟨last, ends⟩ := derived.ends
  rw [stands, ends] at follows
  obtain ⟨shown, read_row, valid⟩ := shows row _ token pushed active rfl
  rw [Occupant.append_row before read_row, valid] at present
  obtain rfl := Option.some.inj present
  refine ⟨?_, ⟨_, pushed, active, ?_⟩, lives⟩
  · rw [Transcript.tokens_extend]
    exact derived.push ends follows
  · rw [Transcript.tokens_extend, List.getLast?_append]
    rfl

theorem absorbAll_slot {buffer : ResultBuffer} {slots grown : List (Option Occupant)} {base place : Nat}
    (ok : absorbAll buffer base slots = .ok grown) (found : grown[place]? = some (some occupant)) :
    ∃ before, slots[place]? = some (some before) ∧ before.absorb buffer (base + place) = .ok occupant := by
  induction slots generalizing base place grown with
  | nil =>
    cases ok
    cases found
  | cons first rest ih =>
    cases first with
    | none =>
      obtain ⟨others, absorbed, done⟩ := except_links ok
      cases done
      cases place with
      | zero => cases found
      | succ place =>
        obtain ⟨before, present, taken⟩ := ih absorbed found
        exact ⟨before, present, by rwa [Nat.add_assoc, Nat.add_comm 1] at taken⟩
    | some first =>
      obtain ⟨taken, absorbing, following⟩ := except_links ok
      obtain ⟨others, absorbed, done⟩ := except_links following
      cases done
      cases place with
      | zero =>
        cases found
        exact ⟨first, rfl, absorbing⟩
      | succ place =>
        obtain ⟨before, present, taken⟩ := ih absorbed found
        exact ⟨before, present, by rwa [Nat.add_assoc, Nat.add_comm 1] at taken⟩

end Scheduler

end SlotServe
