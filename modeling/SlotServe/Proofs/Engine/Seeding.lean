import SlotServe.Proofs.Block.Liveness
import SlotServe.Proofs.Engine.Reach
import SlotServe.Proofs.Engine.Stepping

/-! What a slot holds once a prompt is put into it. Every row is active, owns blocks and stands at its
first token, and no other slot is touched. -/
namespace SlotServe

structure DecodeRow.StartsAt (row : DecodeRow) (start : Prefilled) (sample : Nat) : Prop where
  active : row.active = true
  generated : row.generated = 1
  first : ∃ token, start.firstTokens[sample]? = some token ∧ row.tokens = start.context ++ [token]

theorem DecodeRow.StartsAt.lastToken {row : DecodeRow} {start : Prefilled} {sample : Nat}
    (starts : row.StartsAt start sample) : row.lastToken = start.firstTokens[sample]? := by
  obtain ⟨token, located, tokens⟩ := starts.first
  rw [lastToken_eq, tokens, located, List.getLast?_concat]

theorem DecodeRow.seeded_links {start : Prefilled} {sample : Nat} {row : DecodeRow}
    (ok : seeded start sample = .ok row) :
    ∃ token logProb, start.firstTokens[sample]? = some token ∧ start.logProbs[sample]? = some logProb ∧
      row = { active := true, latest := token :: start.context.reverse, generated := 1,
              requestId := start.requestId, lastLogProb := logProb } := by
  unfold seeded at ok
  split at ok
  next token logProb located scored =>
    cases ok
    exact ⟨token, logProb, located, scored, rfl⟩
  next => cases ok

theorem DecodeRow.seeded_success {start : Prefilled} {sample : Nat} {row : DecodeRow}
    (ok : seeded start sample = .ok row) : row.StartsAt start sample := by
  obtain ⟨token, _, located, -, rfl⟩ := seeded_links ok
  exact ⟨rfl, rfl, token, located, by simp [tokens]⟩

namespace EngineSettings

variable {settings : EngineSettings} {start : Prefilled} {state next : DecodeState} {slot : Nat}
  {requestId : Option RequestId} {cache after : SlotBlocks}

/-- A prompt with a single first token seeds every row with it. A request id that is given replaces that
of the prompt. -/
theorem seedRows_entries {row rows : Nat} {seeded : List DecodeRow}
    (ok : seedRows start requestId row rows = .ok seeded) :
    seeded.length = rows ∧ ∀ place (entry : DecodeRow), seeded[place]? = some entry → ∃ first,
      DecodeRow.seeded start (if start.firstTokens.length = 1 then 0 else row + place) = .ok first ∧
        entry = { first with requestId := requestId <|> first.requestId } := by
  induction rows generalizing row seeded with
  | zero =>
    cases ok
    exact ⟨rfl, fun place entry found => absurd found (by simp)⟩
  | succ rows ih =>
    obtain ⟨first, seeding, ok⟩ := except_links ok
    obtain ⟨rest, following, ok⟩ := except_links ok
    cases ok
    obtain ⟨size, others⟩ := ih following
    refine ⟨congrArg (· + 1) size, fun place entry found => ?_⟩
    cases place with
    | zero =>
      cases found
      exact ⟨first, seeding, rfl⟩
    | succ place =>
      have later := others place entry found
      rwa [Nat.add_assoc, Nat.add_comm 1] at later

theorem seedRows_success {row rows : Nat} {seeded : List DecodeRow}
    (ok : seedRows start requestId row rows = .ok seeded) :
    seeded.length = rows ∧ ∀ place (entry : DecodeRow), seeded[place]? = some entry →
      entry.StartsAt start (if start.firstTokens.length = 1 then 0 else row + place) := by
  refine (seedRows_entries ok).imp_right fun entries place entry found => ?_
  obtain ⟨first, seeding, rfl⟩ := entries place entry found
  have stands := DecodeRow.seeded_success seeding
  exact ⟨stands.active, stands.generated, stands.first⟩

theorem reserveSlot_success {count : Nat} (some : count ≠ 0)
    (ok : settings.reserveSlot slot count cache = .ok () after) :
    ∀ row < settings.samplesPerSlot, after.isLive slot row = true ∧
      ∃ table granted, cache.table? slot row = Option.some table ∧
        after.table? slot row = Option.some (table.grown granted count) := by
  unfold reserveSlot at ok
  split at ok
  next grown =>
    cases ok
    intro row inside
    exact (SlotBlocks.reserveRows_success some grown).2 row (Nat.zero_le row) (by omega)
  next => cases ok
  next => split at ok <;> cases ok

theorem placeRows_success (ok : settings.placeRows start state slot requestId cache = .ok next after) :
    (∃ rows, seedRows start requestId 0 settings.samplesPerSlot = .ok rows ∧ next = state.setSlot slot rows) ∧
      ∀ row < settings.samplesPerSlot, after.isLive slot row = true ∧
        ∃ table granted, cache.table? slot row = some table ∧
          after.table? slot row = some (table.grown granted (start.context.length + 1)) := by
  obtain ⟨length, _, counting, reserving⟩ := bind_links ok
  obtain ⟨counted, rfl⟩ := answer_success counting
  obtain ⟨_, reserved, grown, seeding⟩ := bind_links reserving
  obtain ⟨rows, _, writing, done⟩ := bind_links seeding
  obtain ⟨seeded, rfl⟩ := answer_success writing
  cases done
  have exact : length = start.context.length + 1 := by
    have sum := orDefect_success counted
    unfold Size.add? at sum
    split at sum
    · exact (Option.some.inj sum).symm
    · cases sum
  subst exact
  exact ⟨⟨rows, seeded, rfl⟩, reserveSlot_success (Nat.succ_ne_zero _) grown⟩

theorem insertRows_success (ok : settings.insertRows start state slot requestId cache = .ok next after) :
    settings.FitsSlot start ∧
      (∃ rows, seedRows start requestId 0 settings.samplesPerSlot = .ok rows ∧ next = state.setSlot slot rows) ∧
      ∀ row < settings.samplesPerSlot, after.isLive slot row = true := by
  rw [insertRows_eq] at ok
  split at ok
  next fits =>
    split at ok
    next => cases ok
    next tables present =>
      refine ⟨fits, ?_⟩
      split at ok
      next occupied =>
        obtain ⟨_, between, _, placing⟩ := bind_links ok
        exact (placeRows_success placing).imp_right fun grown row inside => (grown row inside).1
      next idle => exact (placeRows_success ok).imp_right fun grown row inside => (grown row inside).1
  next => cases ok

theorem insert_inserted (ok : (do
      answer (checkSlot settings.maxConcurrentDecodes slot)
      settings.insertRows start state slot requestId) cache = .ok next after) :
    slot < settings.maxConcurrentDecodes ∧
      settings.insertRows start state slot requestId cache = .ok next after := by
  obtain ⟨_, _, checked, inserting⟩ := bind_links ok
  obtain ⟨inside, rfl⟩ := answer_success checked
  refine ⟨?_, inserting⟩
  unfold checkSlot at inside
  split at inside
  next within => exact within
  next => cases inside

theorem tryInsert_inserted (ok : settings.tryInsertRows start state slot requestId cache = .ok next after) :
    slot < settings.maxConcurrentDecodes ∧
      settings.insertRows start state slot requestId cache = .ok next after := by
  unfold tryInsertRows at ok
  dsimp only at ok
  split at ok
  next inserted =>
    cases ok
    exact insert_inserted inserted
  next => cases ok
  next => cases ok

theorem tryInsert_success (ok : settings.tryInsertRows start state slot requestId cache = .ok next after) :
    slot < settings.maxConcurrentDecodes ∧ settings.FitsSlot start ∧
      (∃ rows, seedRows start requestId 0 settings.samplesPerSlot = .ok rows ∧ next = state.setSlot slot rows) ∧
      ∀ row < settings.samplesPerSlot, after.isLive slot row = true :=
  (tryInsert_inserted ok).imp_right insertRows_success

end EngineSettings

end SlotServe
