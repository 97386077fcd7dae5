import SlotServe.Proofs.Engine.Drawn
import SlotServe.Proofs.Sampling.Support

/-! First tokens that are drawn from a random table. Its scores are random reals from zero up to four, so that every
row leaves tokens to draw and each one drawn has a positive weight, unless the temperature is no number. -/
namespace SlotServe

open Floating Binary32
open Sampling (Candidates UpToFour)

-- Bounds of the format are checked by computing with fractions.
unseal Rat.mul Rat.inv Rat.add Rat.sub

theorem hasValue_toFloat32 {word : UInt32} (small : word.toNat < 2 ^ 24) :
    HasValue word.toFloat32 (word.toNat : ℚ) := by
  obtain ⟨near, holds, nearest⟩ := holds_normalize .binary32 (word.toNat : ℤ) 0 .positive
  have exact : Exact .binary32 ((word.toNat : ℤ) : ℚ) := by
    refine exact_intCast ?_
    rw [Nat.abs_cast]
    exact_mod_cast small.le
  rw [zpow_zero, mul_one] at nearest
  rw [nearest.eq exact, Int.cast_natCast] at holds
  have packed : Machine.word word.toFloat32 = Float.Model.UnpackedFloat.pack (Machine.format Float32)
      (Float.Model.UnpackedFloat.normalize .binary32 word.toNat 0 .positive) := rfl
  refine hasValue_of_packed packed holds ?_
  have small : (word.toNat : ℚ) < 2 ^ 24 := by exact_mod_cast small
  rw [Nat.abs_cast]
  exact small.trans (by norm_num [limit, Machine.format, Float.Model.Format.exponentBias])

/-- A product of a whole number with a power of two has no digits to lose. -/
theorem mul_two_pow_value {x y : Float32} {digits : ℕ} {place shift : ℤ} (few : digits < 2 ^ 24)
    (has : HasValue x (digits * 2 ^ place)) (power : HasValue y (2 ^ shift)) (least : -149 ≤ place + shift)
    (most : place + shift ≤ 0) : HasValue (x * y) (digits * 2 ^ (place + shift)) := by
  have value : (digits : ℚ) * 2 ^ place * 2 ^ shift = digits * 2 ^ (place + shift) := by
    rw [zpow_add₀ two_ne_zero, mul_assoc]
  have small : (digits : ℚ) * 2 ^ (place + shift) ≤ 2 ^ 24 := by
    have few : (digits : ℚ) ≤ 2 ^ 24 := by exact_mod_cast few.le
    exact (mul_le_of_le_one_right (Nat.cast_nonneg _) (zpow_le_one_of_nonpos₀ one_le_two most)).trans few
  have exact : Exact .binary32 ((digits : ℚ) * 2 ^ (place + shift)) := by
    refine ⟨digits, place + shift, ?_, least, by rw [Int.cast_natCast]⟩
    rw [Nat.abs_cast]
    exact_mod_cast few.le
  have bounds : Bounds .binary32 0 (2 ^ 24) := bounds_of_sound (by decide)
  obtain ⟨near, computed, nearest⟩ :=
    has.mul_near power bounds (by rw [value]; positivity) (by rw [value]; exact small)
  rw [value] at nearest
  rwa [nearest.eq exact] at computed

namespace Random.WordStream

/-- A random real is a number of 24 binary places. -/
theorem nextUnit_value (stream : WordStream) :
    ∃ digits < 2 ^ 24, HasValue stream.nextUnit.1 ((digits : ℕ) * 2 ^ (-24 : ℤ)) := by
  have short : (stream.next.1 >>> 8).toNat < 2 ^ 24 := by
    have := stream.next.1.toNat_lt
    rw [UInt32.toNat_shiftRight, Nat.shiftRight_eq_div_pow]
    change _ / 2 ^ 8 < _
    omega
  have unit : HasValue (Float32.ofBits 0x33800000) (2 ^ (-24 : ℤ)) := by
    have value : valueOf .binary32 0x33800000 = 2 ^ (-24 : ℤ) := by decide
    exact value ▸ hasValue_ofWord (α := Float32) 0x33800000#32 (by decide)
  have whole : HasValue (stream.next.1 >>> 8).toFloat32 ((stream.next.1 >>> 8).toNat * 2 ^ (0 : ℤ)) := by
    rw [zpow_zero, mul_one]
    exact hasValue_toFloat32 short
  exact ⟨_, short, mul_two_pow_value short whole unit (by norm_num) (by norm_num)⟩

end Random.WordStream

theorem TransitionTable.randomScores_upToFour (count : Nat) (stream : Random.WordStream) :
    ∀ score ∈ randomScores count stream, UpToFour score := by
  induction count generalizing stream with
  | zero => exact fun _ member => absurd member List.not_mem_nil
  | succ count ih =>
    intro score member
    rcases List.mem_cons.mp member with rfl | member
    · obtain ⟨digits, few, unit⟩ := stream.nextUnit_value
      have four : HasValue (4 : Float32) (2 ^ (2 : ℤ)) := by
        norm_num
        exact Sampling.hasValue_four
      have score := mul_two_pow_value few unit four (by norm_num) (by norm_num)
      refine ⟨(le_iff_le hasValue_zero score).mpr (by positivity), (lt_iff_lt score Sampling.hasValue_four).mpr ?_⟩
      have few : (digits : ℚ) < 2 ^ 24 := by exact_mod_cast few
      calc (digits : ℚ) * 2 ^ (-24 + 2 : ℤ) < 2 ^ 24 * 2 ^ (-24 + 2 : ℤ) := mul_lt_mul_of_pos_right few (by positivity)
        _ = 4 := by norm_num
    · exact ih stream.nextUnit.2 score member

/-- The scores of a random table are in range, and so few that tokens can number them. -/
theorem TransitionTable.random_upToFour {vocabulary : Nat} {seed : UInt64} {table : TransitionTable}
    (loaded : TransitionTable.random vocabulary seed = .ok table) :
    ∃ cells, table.Square vocabulary cells ∧ (∀ bits ∈ cells, UpToFour (Float32.ofBits bits)) ∧
      vocabulary < 4294967296 := by
  obtain ⟨rfl, fits⟩ := random_eq loaded
  have full := (List.length_map Float32.toBits).trans (length_randomScores (vocabulary * vocabulary) (.ofSeed seed))
  refine ⟨_, ⟨rfl, full⟩, List.forall_mem_map.mpr fun score member => ?_, ?_⟩
  · rw [Float32.ofBits_toBits]
    exact randomScores_upToFour _ _ score member
  by_contra many
  have square : 4294967296 * 4294967296 ≤ vocabulary * vocabulary :=
    Nat.mul_le_mul (Nat.le_of_not_lt many) (Nat.le_of_not_lt many)
  have few : vocabulary * vocabulary * 4 < 0x8000000000000000 := of_decide_eq_true fits
  omega

namespace EngineSettings

variable {settings : EngineSettings} {table : TransitionTable} {vocabulary : Nat} {cells : List UInt32}
  {request : PrefillRequest Prefilled} {start : Prefilled} {shown : ResultBuffer} {seed : Option UInt64} {count : Nat}

/-- The first tokens that are drawn after a prompt have a positive weight among the scores of its last token. -/
theorem prefillMany_pos (square : table.Square vocabulary cells)
    (range : ∀ bits ∈ cells, UpToFour (Float32.ofBits bits)) (short : vocabulary < 4294967296)
    (plain : request.sampler = none) (number : settings.temperature.isNaN = false)
    (ok : settings.prefillMany table request seed count = .ok (start, shown)) :
    ∃ last row, start.context.getLast? = some last ∧ table.rowsOf [last] = .ok ⟨[1, vocabulary], .f32 row⟩ ∧
      ∀ token ∈ start.firstTokens, ∃ weight,
        (Candidates.ofRow (row.map Float32.ofBits) (settings.sampling (some (seed.getD settings.seed)))).weights[
          token.toNat]? = some weight ∧ 0 < weight := by
  obtain ⟨-, _, scored, -⟩ := prefillMany_drawn plain ok
  obtain ⟨-, last, ends, looked⟩ := scoreRequest_context scored
  have inside := square.rowsOf_inside looked last (by simp)
  have looked := square.rowsOf_single inside
  have drawn := prefillMany_draws looked ends plain ok
  have width : (scoreRow vocabulary cells last).length = vocabulary :=
    square.ofWidth (by simpa using inside) _ (List.mem_map_of_mem (List.mem_singleton_self last))
  refine ⟨last, scoreRow vocabulary cells last, ends, looked, fun token member => ?_⟩
  rw [drawn] at member
  obtain ⟨draw, listed, rfl⟩ := List.mem_map.mp member
  have filled : (scoreRow vocabulary cells last).map Float32.ofBits ≠ [] := by
    rw [List.ne_nil_iff_length_pos, List.length_map]
    omega
  have range : ∀ score ∈ (scoreRow vocabulary cells last).map Float32.ofBits, UpToFour score :=
    List.forall_mem_map.mpr fun bits member => range bits (List.mem_of_mem_drop (List.mem_of_mem_take member))
  have number : (settings.sampling (some (seed.getD settings.seed))).temperature.isNaN = false := number
  exact Candidates.drawMany_pos filled range number (by rwa [List.length_map, width]) count _ draw listed

end EngineSettings

/-- Scores from zero up to four leave a token to draw exactly at the temperatures that are numbers, accepted or not and
however the ranks and the mass are limited. Then each token drawn has a positive weight, and so has each first token
that is drawn from a random table. -/
theorem support_iff_temperature_number (settings : EngineSettings) (row : List Float32) (some : row ≠ [])
    (range : ∀ score ∈ row, UpToFour score) (seed : Option UInt64) :
    (0 < (Candidates.ofRow row (settings.sampling seed)).support ↔ settings.temperature.isNaN = false) ∧
      (settings.temperature.isNaN = false →
        (row.length < 4294967296 → ∀ count stream,
          ∀ draw ∈ ((Candidates.ofRow row (settings.sampling seed)).drawMany count stream).1,
            ∃ weight, (Candidates.ofRow row (settings.sampling seed)).weights[draw.token.toNat]? = .some weight ∧
              0 < weight) ∧
        ∀ vocabulary tableSeed table request start shown count,
          TransitionTable.random vocabulary tableSeed = .ok table → request.sampler = none →
          settings.prefillMany table request seed count = .ok (start, shown) →
            ∃ last row, start.context.getLast? = .some last ∧
              table.rowsOf [last] = .ok ⟨[1, vocabulary], .f32 row⟩ ∧
              ∀ token ∈ start.firstTokens, ∃ weight,
                (Candidates.ofRow (row.map Float32.ofBits)
                    (settings.sampling (.some (seed.getD settings.seed)))).weights[token.toNat]? = .some weight ∧
                  0 < weight) := by
  refine ⟨Candidates.support_pos_iff_number some range, fun number => ⟨fun short count stream => ?_, ?_⟩⟩
  · have number : (settings.sampling seed).temperature.isNaN = false := number
    exact Candidates.drawMany_pos some range number short count stream
  · intro vocabulary tableSeed table request start shown count loaded plain ok
    obtain ⟨cells, square, scores, short⟩ := TransitionTable.random_upToFour loaded
    exact EngineSettings.prefillMany_pos square scores short plain number ok

/-- At the lowest temperature that still divides the scores, with the limits on rank and mass, and after a prompt. -/
theorem support_coldest :
    let settings : EngineSettings :=
      { maxConcurrentDecodes := 1, vocabSize := 4, blockSize := 4, numBlocks := 4,
        temperature := Sampling.Parameters.greedyBelow, topK := 2, topP := Float32.ofBits 0x3F000000 }
    let row : List Float32 := [0, 3, 1, 3]
    settings.validate = .ok () ∧ row ≠ [] ∧ (∀ score ∈ row, UpToFour score) ∧
      0 < (Candidates.ofRow row (settings.sampling none)).support ∧
      ∃ table start shown last row, TransitionTable.random 4 0 = .ok table ∧
        settings.prefillMany table (.padding [1] [] none) none 2 = .ok (start, shown) ∧
        table.rowsOf [last] = .ok ⟨[1, 4], .f32 row⟩ ∧
        ∀ token ∈ start.firstTokens, ∃ weight,
          (Candidates.ofRow (row.map Float32.ofBits) (settings.sampling (some 0))).weights[token.toNat]? = some weight ∧
            0 < weight := by
  intro settings row
  have some : row ≠ [] := by simp [row]
  have range : ∀ score ∈ row, UpToFour score := by decide
  have number : settings.temperature.isNaN = false := by decide
  obtain ⟨table, loaded⟩ : ∃ table, TransitionTable.random 4 0 = .ok table := ⟨_, rfl⟩
  obtain ⟨cells, square⟩ := TransitionTable.random_square loaded
  have prompt : ([1] : List UInt32) ≠ [] := by simp
  have inside : ∀ token ∈ [1], UInt32.toNat token < 4 := List.forall_mem_iff_forall_getElem.mpr (by decide)
  have coherent := PrefillRequest.padding_coherent prompt [] none
  obtain ⟨⟨start, shown⟩, ok⟩ : ∃ found, settings.prefillMany table (.padding [1] [] none) none 2 = .ok found :=
    settings.prefillMany_coherent square coherent rfl inside (by decide) (by decide) none
  obtain ⟨support, draws⟩ := support_iff_temperature_number settings row some range none
  obtain ⟨last, scores, -, looked, positive⟩ := (draws number).2 4 0 table _ start shown 2 loaded rfl ok
  exact ⟨by decide, some, range, support.mpr number, table, start, shown, last, scores, loaded, ok, looked, positive⟩

/-- Settings are accepted with a temperature that is no number, and then no token has a positive weight. -/
theorem accepted_without_support :
    let settings : EngineSettings :=
      { maxConcurrentDecodes := 1, vocabSize := 4, blockSize := 4, numBlocks := 4,
        temperature := Float32.ofBits 0x7FC00000 }
    let row : List Float32 := [0, 3, 1, 3]
    settings.validate = .ok () ∧ (∀ score ∈ row, UpToFour score) ∧
      (Candidates.ofRow row (settings.sampling none)).support = 0 ∧
      ∀ count stream, ∀ draw ∈ ((Candidates.ofRow row (settings.sampling none)).drawMany count stream).1,
        ¬ ∃ weight, (Candidates.ofRow row (settings.sampling none)).weights[draw.token.toNat]? = some weight ∧
          0 < weight := by
  intro settings row
  have none : ∀ weight ∈ (Candidates.ofRow row (settings.sampling none)).weights, ¬ 0 < weight :=
    Candidates.weights_none (by decide)
  refine ⟨by decide, by decide, ?_, fun count stream draw _ => ?_⟩
  · refine Nat.eq_zero_of_not_pos fun positive => ?_
    obtain ⟨weight, member, above⟩ := Candidates.support_pos_iff.mp positive
    exact none weight member above
  · rintro ⟨weight, entry, above⟩
    exact none weight (List.mem_of_getElem? entry) above

end SlotServe
