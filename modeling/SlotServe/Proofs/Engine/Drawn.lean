import SlotServe.Proofs.Sampling.Greedy
import SlotServe.Proofs.Serve.Accepted

/-! The several first tokens of one prompt are draws from the scores after its last token, and can be drawn whenever
one first token can be chosen. At next to no temperature all of them are the token that the ranking of the scores puts
first, which is the one chosen unless two zeros are told apart. -/
namespace SlotServe

open Sampling (Candidates Draw FirstHighest RankedFirst ZerosApart negativeZero rankDescending)

namespace EngineSettings

variable {settings : EngineSettings} {table : TransitionTable} {request : PrefillRequest Prefilled} {start : Prefilled}
  {shown : ResultBuffer}

def drawsAfter (settings : EngineSettings) (row : List UInt32) (seed : Option UInt64) (count : Nat) : List Draw :=
  let seed := seed.getD settings.seed
  ((Candidates.ofRow (row.map Float32.ofBits) (settings.sampling (some seed))).drawMany count (.ofSeed seed)).1

theorem firstTokens_row (width : Nat) (row : List UInt32) (vocabSize : Nat) (seed : Option UInt64) (count : Nat) :
    settings.firstTokens ⟨[1, width], .f32 row⟩ vocabSize none seed count =
      if Size.addressable count 8 then
        .ok ((settings.drawsAfter row seed count).map (·.token), (settings.drawsAfter row seed count).map (·.logProb))
      else .error (.defect .capacity) := by
  unfold firstTokens Sampling.Candidates.draws drawsAfter
  by_cases fits : Size.addressable count 8 = true
  · simp only [fits, if_true]
    rfl
  · simp only [fits]
    rfl

theorem firstTokens_wrongType {width : Nat} {cells : Cells} (other : cells.type ≠ .f32) (vocabSize : Nat)
    (seed : Option UInt64) (count : Nat) :
    settings.firstTokens ⟨[1, width], cells⟩ vocabSize none seed count = .error (.tensor .wrongType) := by
  cases cells with
  | f32 => exact absurd rfl other
  | _ => rfl

theorem prefillMany_draws {last : UInt32} {width : Nat} {row : List UInt32} {seed : Option UInt64} {count : Nat}
    (looked : table.rowsOf [last] = .ok ⟨[1, width], .f32 row⟩) (ends : start.context.getLast? = some last)
    (plain : request.sampler = none) (ok : settings.prefillMany table request seed count = .ok (start, shown)) :
    start.firstTokens = (settings.drawsAfter row seed count).map (·.token) := by
  obtain ⟨-, scores, scored, drawn, -⟩ := prefillMany_drawn plain ok
  obtain ⟨-, final, final_ends, scores_looked⟩ := scoreRequest_context scored
  obtain rfl := Option.some.inj (ends.symm.trans final_ends)
  obtain rfl := Except.ok.inj (looked.symm.trans scores_looked)
  rw [firstTokens_row] at drawn
  split at drawn
  next => exact (congrArg Prod.fst (Except.ok.inj drawn)).symm
  next => cases drawn

/-- A prefill looks up one row of scores and hands on the one token that is picked from it. -/
theorem prefill_scores (ok : settings.prefill table request = .ok (start, shown)) :
    ∃ last width cells token, start.context.getLast? = some last ∧ table.rowsOf [last] = .ok ⟨[1, width], cells⟩ ∧
      settings.scoreRequest table request = .ok (start.context, ⟨[1, width], cells⟩) ∧
      pickTokens ⟨[1, width], cells⟩ request.sampler = .ok [token] ∧ start.firstTokens = [token] := by
  obtain ⟨⟨context, scores⟩, scored, picks⟩ := except_links ok
  obtain ⟨-, last, ends, looked⟩ := scoreRequest_context scored
  have handed : table.handOn request.sampler request.requestId context last = .ok (start, shown) := by
    rw [TransitionTable.handOn, looked]
    exact picks
  obtain ⟨width, cells, token, logProb, -, found, picked, rfl, -⟩ := TransitionTable.handOn_links handed
  obtain rfl : scores = ⟨[1, width], cells⟩ := Except.ok.inj (looked.symm.trans found)
  exact ⟨last, width, cells, token, ends, looked, scored, picked, rfl⟩

theorem prefillMany_of_row {context : List UInt32} {width : Nat} {row : List UInt32} {count : Nat}
    (plain : request.sampler = none) (some : count ≠ 0) (fits : Size.addressable count 8 = true)
    (scored : settings.scoreRequest table request = .ok (context, ⟨[1, width], .f32 row⟩)) (seed : Option UInt64) :
    ∃ many shown, settings.prefillMany table request seed count = .ok (many, shown) ∧ many.context = context ∧
      many.firstTokens = (settings.drawsAfter row seed count).map (·.token) := by
  let draws := settings.drawsAfter row seed count
  have drawn := settings.firstTokens_row width row table.vocabSize seed count
  rw [if_pos fits] at drawn
  exact ⟨⟨context, draws.map (·.token), draws.map (·.logProb), request.requestId⟩, _,
    prefillMany_of_drawn plain some scored drawn, rfl, rfl⟩

theorem prefillMany_wrongType {context : List UInt32} {width : Nat} {cells : Cells} {count : Nat}
    (plain : request.sampler = none) (some : count ≠ 0) (other : cells.type ≠ .f32)
    (scored : settings.scoreRequest table request = .ok (context, ⟨[1, width], cells⟩)) (seed : Option UInt64) :
    settings.prefillMany table request seed count = .error (.tensor .wrongType) := by
  unfold prefillMany
  rw [if_neg some, scored, plain]
  change (settings.firstTokens _ table.vocabSize none seed count >>= _) = _
  rw [firstTokens_wrongType other]
  rfl

/-- At next to no temperature all draws are of the position that the ranking puts first. -/
theorem drawsAfter_greedy (greedy : (settings.sampling none).isGreedy = true) {row : List UInt32} {top : Nat}
    {rest : List Nat} (ranked : rankDescending (row.map Float32.ofBits) = top :: rest) (seed : Option UInt64)
    (count : Nat) :
    (settings.drawsAfter row seed count).map (·.token) = List.replicate count (UInt32.ofNat top) := by
  refine List.eq_replicate_iff.mpr ⟨?_, ?_⟩
  · rw [List.length_map, drawsAfter, Candidates.drawMany_length]
  · intro token member
    obtain ⟨draw, drawn, rfl⟩ := List.mem_map.mp member
    have greedy : (settings.sampling (some (seed.getD settings.seed))).isGreedy = true := greedy
    exact Candidates.drawMany_each (P := fun draw => draw.token = UInt32.ofNat top)
      (Candidates.draw_greedy greedy ranked) _ _ draw drawn

end EngineSettings

/-- The scan over a row of numbers and the draws at next to no temperature choose tokens of equal scores. They choose
the same one unless the highest score is zero, first as a negative and then as a positive one. So do a prefill of one
token and one of several under any table whose scores are reals of 32 bits; the second always succeeds if the first one
does. Under a table of other cells the second reads no scores. -/
theorem greedy_choices_agree (row : List UInt32) (some : row ≠ [])
    (numbers : ∀ bits ∈ row, (Float32.ofBits bits).isNaN = false) (parameters : Sampling.Parameters)
    (greedy : parameters.isGreedy = true) :
    let scores := row.map Float32.ofBits
    ∃ best top, best < row.length ∧ top < row.length ∧
      Sampling.greedyTokens ⟨[1, row.length], .f32 row⟩ = .ok ⟨[1], .u32 [UInt32.ofNat best]⟩ ∧
      (∀ count stream, ∀ draw ∈ ((Candidates.ofRow scores parameters).drawMany count stream).1,
        draw.token = UInt32.ofNat top) ∧
      scores.getD best 0 ≤ scores.getD top 0 ∧ scores.getD top 0 ≤ scores.getD best 0 ∧
      (best = top ↔ ¬ ∃ first, ZerosApart scores first) ∧
      ∀ (settings : EngineSettings) (table : TransitionTable) (request : PrefillRequest Prefilled) (start : Prefilled)
        (shown : ResultBuffer),
        (settings.sampling none).isGreedy = true → request.sampler = none →
        settings.prefill table request = .ok (start, shown) →
          ∃ last width cells, start.context.getLast? = .some last ∧
            table.rowsOf [last] = .ok ⟨[1, width], cells⟩ ∧
            (cells.type ≠ .f32 → ∀ seed count, count ≠ 0 →
              settings.prefillMany table request seed count = .error (.tensor .wrongType)) ∧
            (width = row.length → cells = .f32 row → start.firstTokens = [UInt32.ofNat best] ∧
              ∀ seed count, count ≠ 0 → Size.addressable count 8 = true →
                ∃ many shown, settings.prefillMany table request seed count = .ok (many, shown) ∧
                  many.context = start.context ∧ many.firstTokens = List.replicate count (UInt32.ofNat top)) := by
  intro scores
  have filled : scores ≠ [] := by simpa [scores] using some
  have numbers : ∀ score ∈ scores, score.isNaN = false := List.forall_mem_map.mpr numbers
  have size : scores.length = row.length := List.length_map _
  obtain ⟨score, first⟩ := Sampling.bestIndex_firstHighest filled numbers
  obtain ⟨top, rest, ranked, ahead⟩ := Sampling.rankDescending_head filled
  obtain ⟨below, above⟩ := first.level numbers ahead
  refine ⟨_, top, size ▸ first.inside, size ▸ ahead.inside, greedyTokens_row some,
    fun count stream => ?_, below, above, first.eq_iff numbers ahead, ?_⟩
  · exact Candidates.drawMany_each (Candidates.draw_greedy greedy ranked) count stream
  · intro settings table request start shown cold plain ok
    obtain ⟨last, width, cells, token, ends, looked, scored, picked, only⟩ := EngineSettings.prefill_scores ok
    refine ⟨last, width, cells, ends, looked, fun other seed count positive => ?_, ?_⟩
    -- Both calls look up the same scores, which only the second one needs as reals of 32 bits.
    · exact EngineSettings.prefillMany_wrongType plain positive other scored seed
    · rintro rfl rfl
      rw [plain, pickTokens_row some] at picked
      refine ⟨only.trans (Except.ok.inj picked).symm, fun seed count positive fits => ?_⟩
      obtain ⟨many, shown, drawn, context, tokens⟩ :=
        EngineSettings.prefillMany_of_row plain positive fits scored seed
      exact ⟨many, shown, drawn, context, tokens.trans (EngineSettings.drawsAfter_greedy cold ranked seed count)⟩

/-- The prompt ends in token 1, whose row of scores has a tie. -/
theorem greedy_choices_agree_tied :
    let settings : EngineSettings :=
      { maxConcurrentDecodes := 1, vocabSize := 4, blockSize := 4, numBlocks := 4, temperature := 0 }
    let table : TransitionTable := ⟨⟨[2, 4], .ofReals [0, 0, 0, 0, 1, 3, 3, 2]⟩⟩
    let row : List UInt32 := ([1, 3, 3, 2] : List Float32).map Float32.toBits
    row ≠ [] ∧ (∀ bits ∈ row, (Float32.ofBits bits).isNaN = false) ∧ (settings.sampling none).isGreedy = true ∧
      ∃ start shown many first, settings.prefill table (.padding [0, 1] [] none) = .ok (start, shown) ∧
        settings.prefillMany table (.padding [0, 1] [] none) (some 7) 2 = .ok (many, first) ∧
        start.firstTokens = [1] ∧ many.context = [0, 1] ∧ many.firstTokens = [1, 1] := by
  intro settings table row
  have some : row ≠ [] := by simp [row]
  have numbers : ∀ bits ∈ row, (Float32.ofBits bits).isNaN = false :=
    List.forall_mem_iff_forall_getElem.mpr (by decide)
  have greedy : (settings.sampling none).isGreedy = true := by decide
  have prompt : ([0, 1] : List UInt32) ≠ [] := by simp
  have coherent := PrefillRequest.padding_coherent prompt [] none
  obtain ⟨⟨start, shown⟩, ok⟩ : ∃ found, settings.prefill table (.padding [0, 1] [] none) = .ok found := by
    have matrix : table.Matrix 4 := rfl
    have inside : UInt32.toNat 1 < table.vocabSize := by decide
    rw [EngineSettings.prefill_coherent coherent rfl, if_neg (by decide)]
    exact table.handOn_greedy matrix (by decide) inside _ _
  obtain ⟨best, top, -, -, scan, -, -, -, same, prefills⟩ := greedy_choices_agree row some numbers _ greedy
  obtain ⟨last, width, cells, ends, looked, -, agree⟩ := prefills settings table _ start shown greedy rfl ok
  have whole : start.context = [0, 1] :=
    Except.ok.inj ((EngineSettings.prefill_contextOf ok).symm.trans coherent.contextOf_eq)
  rw [whole] at ends
  obtain rfl : 1 = last := Option.some.inj ends
  cases looked
  obtain ⟨single, several⟩ := agree rfl rfl
  obtain ⟨many, first, drawn, context, tokens⟩ := several (.some 7) 2 (by decide) (by decide)
  have chosen : Sampling.greedyTokens ⟨[1, row.length], .f32 row⟩ = .ok ⟨[1], .u32 [1]⟩ := by rfl
  have one : UInt32.ofNat best = 1 := by simpa using Except.ok.inj (scan.symm.trans chosen)
  have level : best = top := by
    refine same.mpr fun ⟨_, apart⟩ => ?_
    exact absurd (apart.highest 1 (List.mem_of_getElem? (i := 0) rfl)) (by decide)
  refine ⟨some, numbers, greedy, start, shown, many, first, ok, drawn, ?_, context.trans whole, ?_⟩
  · rw [single, one]
  · rw [tokens, ← level, one]
    rfl

/-- The scan takes the first of two zeros, the ranking the positive one. -/
theorem zeros_chosen_apart :
    Sampling.greedyTokens ⟨[1, 2], .f32 ([negativeZero, 0].map Float32.toBits)⟩ = .ok ⟨[1], .u32 [0]⟩ ∧
      ∀ stream, ((Candidates.ofRow [negativeZero, 0] .greedy).draw stream).1.token = 1 := by
  refine ⟨by rfl, fun stream => ?_⟩
  have filled : [negativeZero, 0] ≠ [] := by simp
  obtain ⟨top, rest, ranked, first⟩ := Sampling.rankDescending_head filled
  rw [Candidates.draw_greedy (by decide) ranked]
  match top, first with
  | 0, first => exact absurd (first.ahead 1 (by decide) (by decide)) (by unfold Sampling.Ahead; decide)
  | 1, _ => rfl
  | top + 2, first => exact absurd first.inside (by simp)

end SlotServe
