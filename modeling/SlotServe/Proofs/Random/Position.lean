import Mathlib.Data.List.GetD
import SlotServe.Random.Words

/-! A seeded stream hands out the words of its blocks in order: the word at every position is a function of the
key, and taking one moves the stream on by exactly one position. -/
namespace SlotServe.Random

theorem length_blockWords (key : CipherKey) (block : UInt64) : (blockWords key block).length = 16 := rfl

def wordAt (key : CipherKey) (position : Nat) : UInt32 :=
  (blockWords key (UInt64.ofNat (position / 16))).getD (position % 16) 0

namespace WordStream

/-- Just as many words as `position` have been taken: what is ready is the rest of the block that was begun last. -/
structure At (stream : WordStream) (position : Nat) : Prop where
  block : stream.block = UInt64.ofNat ((position + 15) / 16)
  ready : stream.ready =
    (blockWords stream.key (UInt64.ofNat (position / 16))).drop (position + 16 - (position + 15) / 16 * 16)

theorem ofSeed_at (seed : UInt64) : (ofSeed seed).At 0 := ⟨rfl, rfl⟩

variable {stream : WordStream} {position : Nat} {word : UInt32} {rest : List UInt32}

theorem next_of_ready (ready : stream.ready = word :: rest) :
    stream.next = (word, { stream with ready := rest }) := by
  unfold next
  rw [ready]

theorem next_of_block (used : stream.ready = []) (words : blockWords stream.key stream.block = word :: rest) :
    stream.next = (word, { stream with block := stream.block + 1, ready := rest }) := by
  unfold next
  rw [used]
  dsimp only
  rw [words]

theorem At.next (here : stream.At position) :
    stream.next.1 = wordAt stream.key position ∧ stream.next.2.At (position + 1) := by
  have full := length_blockWords stream.key (UInt64.ofNat (position / 16))
  have block := here.block
  have ready := here.ready
  have after : (position + 1 + 15) / 16 = position / 16 + 1 := by omega
  rcases Nat.eq_zero_or_pos (position % 16) with edge | inner
  · -- The block before is used up, and the next one is begun.
    rw [show (position + 15) / 16 = position / 16 by omega] at block ready
    rw [List.drop_of_length_le (by omega)] at ready
    obtain ⟨word, rest, words⟩ := List.exists_cons_of_length_eq_add_one full
    rw [next_of_block ready (block ▸ words)]
    refine ⟨?_, ?_, ?_⟩
    · simp [wordAt, words, edge]
    · rw [after, UInt64.ofNat_add, block]
      rfl
    · rw [show (position + 1) / 16 = position / 16 by omega,
        show position + 1 + 16 - (position + 1 + 15) / 16 * 16 = 1 by omega, words]
      rfl
  · have left : position % 16 < (blockWords stream.key (UInt64.ofNat (position / 16))).length := by omega
    rw [show (position + 15) / 16 = position / 16 + 1 by omega] at block ready
    rw [show position + 16 - (position / 16 + 1) * 16 = position % 16 by omega,
      List.drop_eq_getElem_cons left] at ready
    rw [next_of_ready ready]
    refine ⟨?_, ?_, ?_⟩
    · exact (List.getD_eq_getElem _ _ left).symm
    · rw [after]
      exact block
    · by_cases last : position % 16 = 15
      · rw [List.drop_of_length_le (by omega)]
        exact (List.drop_of_length_le (by rw [length_blockWords]; omega)).symm
      · rw [show (position + 1) / 16 = position / 16 by omega,
          show position + 1 + 16 - (position + 1 + 15) / 16 * 16 = position % 16 + 1 by omega]

end WordStream

end SlotServe.Random
