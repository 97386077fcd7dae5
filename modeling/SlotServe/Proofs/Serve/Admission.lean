import SlotServe.Proofs.Engine.FirstTokens
import SlotServe.Proofs.Engine.Insert
import SlotServe.Proofs.Prompt.Lengths
import SlotServe.Proofs.Serve.Moves

/-! What a request has when it is admitted. Its prefill depends on the prompt and on its number among
the admissions alone, and each of its samples holds the first token of that sample. -/
namespace SlotServe

variable {σ τ : Type} {V : Type} {settings : EngineSettings}

structure Executor.PrefillsBy (executor : Executor σ TransitionTable Prefilled DecodeState V)
    (settings : EngineSettings) : Prop where
  limits : executor.limits = settings.limits
  prefill : ∀ table request, executor.prefill table request = answer (settings.prefill table request)
  prefillMany : ∀ table request seed count,
    executor.prefillMany table request seed count = answer (settings.prefillMany table request seed count)

namespace Executor

theorem prefillsBy_front (settings : EngineSettings) (build : VocabularySource → Except Fault V) :
    (settings.executor build).front.PrefillsBy settings :=
  ⟨rfl, fun _ _ => zoom_answer (fun _ => rfl) _, fun _ _ _ _ => zoom_answer (fun _ => rfl) _⟩

variable {executor : Executor σ TransitionTable Prefilled DecodeState V}
  {twin : Executor τ TransitionTable Prefilled DecodeState V}

theorem PrefillsBy.observed (prefills : executor.PrefillsBy settings) : executor.observed.PrefillsBy settings where
  limits := prefills.limits
  prefill table request := by
    change zoom _ _ (executor.prefill table request) = _
    rw [prefills.prefill]
    exact zoom_answer (fun _ => rfl) _
  prefillMany table request seed count := by
    change zoom _ _ (executor.prefillMany table request seed count) = _
    rw [prefills.prefillMany]
    exact zoom_answer (fun _ => rfl) _

theorem PrefillsBy.mirrored (prefills : executor.PrefillsBy settings) (others : twin.PrefillsBy settings)
    (Related : σ → τ → Prop) : MirroredPrefill Related executor twin where
  limits := prefills.limits.trans others.limits.symm
  prefill table request := by
    rw [prefills.prefill, others.prefill]
    exact mirrors_answer _
  prefillMany table request seed count := by
    rw [prefills.prefillMany, others.prefillMany]
    exact mirrors_answer _

end Executor

namespace Scheduler

variable {scheduler : Scheduler σ TransitionTable Prefilled DecodeState V}
  {twin : Executor τ TransitionTable Prefilled DecodeState V}
  (prefills : scheduler.executor.PrefillsBy settings) {request : Request} {start : Prefilled}
  {first : ResultBuffer} {seed : UInt64} {engine after : σ}

include prefills

theorem prefill_unmoved (request : Request) (seed : UInt64) (engine : σ) :
    left (scheduler.prefill request seed engine) = engine := by
  have kept : Keeps (· = engine) (scheduler.prefill request seed) := by
    refine prefill_keeps ?_ ?_ request seed
    · intro table request
      rw [prefills.prefill]
      exact keeps_answer _
    · intro table request seed count
      rw [prefills.prefillMany]
      exact keeps_answer _
  exact kept engine rfl

theorem prefill_anywhere (others : twin.PrefillsBy settings)
    (ok : scheduler.prefill request seed engine = .ok (start, first) after) (other : τ) :
    (scheduler.withExecutor twin).prefill request seed other = .ok (start, first) other := by
  have same := prefill_mirrors (prefills.mirrored others fun _ twin => twin = other) request seed
    engine other rfl
  rw [ok] at same
  generalize (scheduler.withExecutor twin).prefill request seed other = ended at same
  cases same with
  | ok _ unmoved => exact congrArg _ unmoved

/-- A prefill shows the tokens that it hands on. With one sample for each slot there is one, picked from the
scores after the prompt. -/
theorem prefill_shows (positive : 0 < settings.samplesPerSlot)
    (ok : scheduler.prefill request seed engine = .ok (start, first) after) :
    first.Shows start.firstTokens settings.samplesPerSlot ∧
      (settings.samplesPerSlot = 1 → ∃ last scores next, request.prompt.getLast? = some last ∧
        scheduler.model.rowsOf [last] = .ok scores ∧ pickTokens scores none = .ok [next] ∧
        start.firstTokens = [next]) := by
  obtain ⟨⟨tokens, length⟩, _, padding, prefilling⟩ := bind_links ok
  obtain ⟨padded, rfl⟩ := answer_success padding
  have lead : tokens.take length = request.prompt := by
    obtain ⟨rfl, rfl, -⟩ := padPrompt_success padded
    exact List.take_left
  dsimp only at prefilling
  rw [prefills.limits, prefills.prefillMany] at prefilling
  split at prefilling
  next several =>
    obtain ⟨many, -⟩ := answer_success prefilling
    have several : 1 < settings.samplesPerSlot := several
    exact ⟨EngineSettings.prefillMany_success many, fun one => absurd several (by omega)⟩
  next single =>
    obtain ⟨piece, shown, between, computed, sampler, whole, same⟩ :=
      Executor.prefillChunked_success rfl prefilling
    rw [prefills.prefill] at computed
    obtain ⟨computed, -⟩ := answer_success computed
    obtain ⟨last, scores, next, ends, looked, picked, firstToken, shows⟩ :=
      EngineSettings.prefill_picked whole computed
    rw [same] at ends
    rw [sampler] at picked
    have single : ¬1 < settings.samplesPerSlot := single
    have one : settings.samplesPerSlot = 1 := by omega
    rw [one]
    exact ⟨shows, fun _ => ⟨last, scores, next, lead ▸ ends, looked, picked, firstToken⟩⟩

/-- With one sample for each slot the first token is the successor of the last token of the prompt. -/
theorem prefill_success (positive : 0 < settings.samplesPerSlot) {vocabulary : Nat} {cells : List UInt32}
    (square : scheduler.model.Square vocabulary cells)
    (ok : scheduler.prefill request seed engine = .ok (start, first) after) :
    first.Shows start.firstTokens settings.samplesPerSlot ∧
      (settings.samplesPerSlot = 1 → ∃ last next, request.prompt.getLast? = some last ∧
        scheduler.model.successor last = .ok next ∧ start.firstTokens = [next]) := by
  obtain ⟨shows, picks⟩ := prefill_shows prefills positive ok
  refine ⟨shows, fun one => ?_⟩
  obtain ⟨last, scores, next, ends, looked, picked, only⟩ := picks one
  exact ⟨last, next, ends, square.successor_of_picked looked picked, only⟩

end Scheduler

namespace Occupant

theorem length_append (samples : List Transcript) (rows : List RowSample) :
    (append samples rows).length = samples.length := by
  induction samples generalizing rows with
  | nil => rfl
  | cons sample rest ih =>
    cases rows with
    | nil => rfl
    | cons row rows => exact congrArg (· + 1) (ih rows)

theorem append_row {samples : List Transcript} {rows : List RowSample} {place : Nat} {sample : Transcript}
    {row : RowSample} (present : samples[place]? = some sample) (shown : rows[place]? = some row) :
    (append samples rows)[place]? = some (sample.extend row.validTokens) := by
  induction samples generalizing rows place with
  | nil => cases present
  | cons first rest ih =>
    cases rows with
    | nil => cases shown
    | cons row rows =>
      cases place with
      | zero =>
        cases present
        cases shown
        rfl
      | succ place => exact ih present shown

theorem absorb_success {rows : List RowSample} {width samplesPerSlot slot : Nat} {buffer : ResultBuffer}
    (packs : buffer.Packs rows width samplesPerSlot) {occupant after : Occupant}
    (ok : occupant.absorb buffer slot = .ok after) :
    slot * samplesPerSlot + samplesPerSlot ≤ rows.length ∧ ∃ read,
      after = { occupant with samples := append occupant.samples read } ∧
      read.map (·.content) = ((rows.drop (slot * samplesPerSlot)).take samplesPerSlot).map (·.content) := by
  obtain ⟨view, viewed, reading⟩ := except_links ok
  obtain ⟨read, shown, done⟩ := except_links reading
  cases done
  obtain ⟨inside, content⟩ := packs.samples_content viewed shown
  exact ⟨inside, read, rfl, content⟩

end Occupant

theorem RowSample.validTokens_of_content {sample : RowSample} {token : UInt32}
    (content : sample.content = ([token], [true])) : sample.validTokens = [token] := by
  rw [validTokens_eq, content]
  rfl

theorem Scheduler.takeUp_success {M P S V : Type} {scheduler : Scheduler σ M P S V} {request : Request}
    {first : ResultBuffer} {tokens : List UInt32}
    (shows : first.Shows tokens scheduler.executor.limits.samplesPerSlot)
    (fits : tokens.length = 1 ∨ tokens.length = scheduler.executor.limits.samplesPerSlot) {occupant : Occupant}
    (ok : scheduler.takeUp request first = .ok occupant) :
    occupant.request = request ∧ tokens.length = scheduler.executor.limits.samplesPerSlot ∧
      occupant.samples.map (·.tokens) = tokens.map fun token => [token] := by
  obtain ⟨copied, host, absorbed⟩ := except_links ok
  obtain rfl := ResultBuffer.toHost_success host
  obtain ⟨rows, width, packs, shown⟩ := shows
  have positive := packs.positive
  obtain ⟨inside, read, rfl, content⟩ := Occupant.absorb_success packs absorbed
  have size := shown.length_le
  rw [List.length_map, List.length_map] at size
  have count : tokens.length = scheduler.executor.limits.samplesPerSlot := by omega
  have all : rows.map (·.content) = tokens.map fun token => ([token], [true]) :=
    shown.eq_of_length (by rw [List.length_map, List.length_map]; omega)
  rw [Nat.zero_mul, List.drop_zero, List.take_of_length_le (by omega), all] at content
  refine ⟨rfl, count, List.ext_getElem? fun place => ?_⟩
  cases located : tokens[place]? with
  | none =>
    have outside := List.getElem?_eq_none_iff.mp located
    rw [List.getElem?_eq_none_iff.mpr, List.getElem?_eq_none_iff.mpr]
    · rwa [List.length_map]
    · rw [List.length_map, Occupant.length_append]
      simpa [Occupant.ofRequest, ← count] using outside
  | some token =>
    have inside := (List.getElem?_eq_some_iff.mp located).1
    have opposite := congrArg (·[place]?) content
    simp only [List.getElem?_map, located, Option.map_some] at opposite
    obtain ⟨row, found, carries⟩ := Option.map_eq_some_iff.mp opposite
    have empty : (Occupant.ofRequest request scheduler.executor.limits.samplesPerSlot).samples[place]? =
        some .empty := by
      simp [Occupant.ofRequest, ← count, inside]
    rw [List.getElem?_map, List.getElem?_map, Occupant.append_row empty found,
      RowSample.validTokens_of_content carries, located]
    rfl

end SlotServe
