import Mathlib.Data.List.Sort
import Mathlib.Order.Bounds.Basic
import SlotServe.Proofs.Prompt.Buckets
import SlotServe.Tensor.Basic

/-! The length that a prompt is padded to: that of the least bucket that holds it, or its own where no bucket does.
To pad once more adds nothing, and a longer prompt is not padded to less. A bucket may be longer than any list of
tokens can be, and then there is no padded prompt. -/
namespace SlotServe

variable {buckets others : List Nat} {limit length : Nat}

theorem held_or_longer (buckets : List Nat) (length : Nat) :
    (∃ bucket ∈ buckets, length ≤ bucket) ∨ ∀ bucket ∈ buckets, bucket < length := by
  by_cases held : ∃ bucket ∈ buckets, length ≤ bucket
  · exact .inl held
  · exact .inr fun bucket member => Nat.not_le.mp fun holds => held ⟨bucket, member, holds⟩

theorem nearestLength_isLeast (held : ∃ bucket ∈ buckets, length ≤ bucket) :
    IsLeast {bucket | bucket ∈ buckets ∧ length ≤ bucket} (nearestLength buckets length) := by
  have listed {bucket : Nat} : bucket ∈ buckets.filter (length ≤ ·) ↔ bucket ∈ buckets ∧ length ≤ bucket := by
    rw [List.mem_filter, decide_eq_true_eq]
  unfold nearestLength
  cases least : (buckets.filter (length ≤ ·)).min? with
  | none =>
    obtain ⟨bucket, holds⟩ := held
    exact absurd (listed.mpr holds) (List.min?_eq_none_iff.mp least ▸ List.not_mem_nil)
  | some bucket =>
    obtain ⟨member, below⟩ := List.min?_eq_some_iff.mp least
    exact ⟨listed.mp member, fun other holds => below other (listed.mpr holds)⟩

theorem nearestLength_own (longer : ∀ bucket ∈ buckets, bucket < length) : nearestLength buckets length = length := by
  have none : buckets.filter (length ≤ ·) = [] :=
    List.filter_eq_nil_iff.mpr fun bucket member => by simpa using longer bucket member
  rw [nearestLength, none]
  rfl

theorem nearestLength_cases (buckets : List Nat) (length : Nat) :
    nearestLength buckets length = length ∨
      nearestLength buckets length ∈ buckets ∧ length ≤ nearestLength buckets length :=
  (held_or_longer buckets length).symm.imp nearestLength_own fun held => (nearestLength_isLeast held).1

theorem le_nearestLength (buckets : List Nat) (length : Nat) : length ≤ nearestLength buckets length := by
  rcases nearestLength_cases buckets length with own | ⟨-, holds⟩
  · exact own.ge
  · exact holds

theorem nearestLength_le (within : ∀ bucket ∈ buckets, bucket ≤ limit) (fits : length ≤ limit) :
    nearestLength buckets length ≤ limit := by
  rcases nearestLength_cases buckets length with own | ⟨member, -⟩
  · rwa [own]
  · exact within _ member

theorem nearestLength_monotone (buckets : List Nat) : Monotone (nearestLength buckets) := by
  intro shorter longer le
  rcases held_or_longer buckets longer with held | short
  · have listed := (nearestLength_isLeast held).1
    -- What holds the longer prompt holds the shorter one too.
    have holds : nearestLength buckets longer ∈ buckets ∧ shorter ≤ nearestLength buckets longer :=
      ⟨listed.1, le.trans listed.2⟩
    exact (nearestLength_isLeast ⟨_, holds⟩).2 holds
  · rw [nearestLength_own short]
    exact nearestLength_le (fun bucket member => (short bucket member).le) le

theorem nearestLength_again (buckets : List Nat) (length : Nat) :
    nearestLength buckets (nearestLength buckets length) = nearestLength buckets length := by
  rcases nearestLength_cases buckets length with own | ⟨member, -⟩
  · rw [own, own]
  · exact Nat.le_antisymm ((nearestLength_isLeast ⟨_, member, Nat.le_refl _⟩).2 ⟨member, Nat.le_refl _⟩)
      (le_nearestLength buckets _)

/-- Neither the order of the configured buckets nor a repetition shows in those that are accepted. -/
theorem bucketsUpTo_congr (same : ∀ bucket, bucket ∈ others ↔ bucket ∈ buckets) (limit : Nat) :
    bucketsUpTo others limit = bucketsUpTo buckets limit := by
  refine List.Pairwise.eq_of_mem_iff (bucketsUpTo_ascending others limit) (bucketsUpTo_ascending buckets limit) ?_
  intro bucket
  rw [mem_bucketsUpTo, mem_bucketsUpTo, same]

theorem length_padRight {tokens : List UInt32} (fits : tokens.length ≤ length) (pad : UInt32) :
    (padRight tokens pad length).length = length := by
  rw [padRight, List.length_append, List.length_replicate]
  omega

theorem padPrompt_eq {tokens : List UInt32} (some : tokens ≠ []) (pad : UInt32) (buckets : List Nat) :
    padPrompt tokens pad buckets =
      if Size.addressable (nearestLength buckets tokens.length) 4 then
        .ok (padRight tokens pad (nearestLength buckets tokens.length), tokens.length)
      else .error (.defect .capacity) := by
  unfold padPrompt
  rw [if_neg (by simpa using some)]
  change (checkLength (nearestLength buckets tokens.length) >>= fun _ => Except.ok _) = _
  unfold checkLength
  split <;> rfl

theorem padPrompt_success {tokens padded : List UInt32} {pad : UInt32} {count : Nat}
    (ok : padPrompt tokens pad buckets = .ok (padded, count)) :
    padded = padRight tokens pad (nearestLength buckets tokens.length) ∧ count = tokens.length ∧
      Size.addressable (nearestLength buckets tokens.length) 4 = true := by
  by_cases none : tokens = []
  · subst none
    cases ok
  · rw [padPrompt_eq none] at ok
    split at ok
    next room =>
      cases ok
      exact ⟨rfl, rfl, room⟩
    next => cases ok

theorem padPrompt_addressable {tokens padded : List UInt32} {pad : UInt32} {count : Nat}
    (ok : padPrompt tokens pad buckets = .ok (padded, count)) : Size.addressable padded.length 4 = true := by
  obtain ⟨rfl, -, room⟩ := padPrompt_success ok
  rwa [length_padRight (le_nearestLength buckets tokens.length)]

/-- The accepted buckets are those of the list up to the limit, in ascending order. A prompt within the limit is
padded to the least of them that holds it, or not at all, unless a list of that length cannot be addressed. The
length does not depend on how the list is written, grows with the prompt and is kept when it is padded again. -/
theorem padded_to_least_bucket (buckets : List Nat) (limit : Nat) (tokens : List UInt32) (pad : UInt32)
    (some : tokens ≠ []) (fits : tokens.length ≤ limit) :
    let accepted := bucketsUpTo buckets limit
    let length := nearestLength accepted tokens.length
    (accepted.Pairwise (· < ·) ∧ ∀ bucket, bucket ∈ accepted ↔ bucket ∈ buckets ∧ 1 ≤ bucket ∧ bucket ≤ limit) ∧
    (Size.addressable length 4 = true → ∃ padded, padPrompt tokens pad accepted = .ok (padded, tokens.length) ∧
      (Tensor.ofTokens padded).shape = [length] ∧ padded.take tokens.length = tokens ∧
      ∀ id ∈ padded.drop tokens.length, id = pad) ∧
    (Size.addressable length 4 = false → padPrompt tokens pad accepted = .error (.defect .capacity)) ∧
    (tokens.length ≤ length ∧ length ≤ limit) ∧
    ((∃ bucket ∈ accepted, tokens.length ≤ bucket) →
      IsLeast {bucket | bucket ∈ accepted ∧ tokens.length ≤ bucket} length) ∧
    ((∀ bucket ∈ accepted, bucket < tokens.length) → length = tokens.length) ∧
    (∀ others, (∀ bucket, bucket ∈ others ↔ bucket ∈ buckets) →
      nearestLength (bucketsUpTo others limit) tokens.length = length) ∧
    Monotone (nearestLength accepted) ∧
    ∀ again : List UInt32, again.length = length → Size.addressable length 4 = true →
      padPrompt again pad accepted = .ok (again, again.length) := by
  intro accepted length
  have reaches : tokens.length ≤ length := le_nearestLength accepted tokens.length
  have within : ∀ bucket ∈ accepted, bucket ≤ limit := fun bucket member => (mem_bucketsUpTo.mp member).2.2
  refine ⟨⟨bucketsUpTo_ascending buckets limit, fun bucket => mem_bucketsUpTo⟩, fun room => ?_, fun excess => ?_,
    ⟨reaches, nearestLength_le within fits⟩, nearestLength_isLeast, nearestLength_own, fun others same => ?_,
    nearestLength_monotone accepted, fun again exact room => ?_⟩
  · refine ⟨padRight tokens pad length, ?_, ?_, List.take_left, fun id member => ?_⟩
    · rw [padPrompt_eq some, if_pos room]
    · exact congrArg (fun size => [size]) (length_padRight reaches pad)
    · rw [padRight, List.drop_left] at member
      exact List.eq_of_mem_replicate member
  · rw [padPrompt_eq some, excess]
    rfl
  · rw [bucketsUpTo_congr same]
  · have settled : nearestLength accepted again.length = again.length := by
      rw [exact]
      exact nearestLength_again accepted tokens.length
    have more : again ≠ [] := by
      have longer := List.length_pos_of_ne_nil some
      rintro rfl
      rw [List.length_nil] at exact
      omega
    rw [padPrompt_eq more, settled, exact, if_pos room, padRight, exact, Nat.sub_self]
    simp

/-- Seven tokens over buckets out of order, with a zero, a repetition and one past the limit. -/
theorem seven_padded_to_least_bucket :
    [1, 2, 3, 4, 5, 6, 7] ≠ ([] : List UInt32) ∧ [1, 2, 3, 4, 5, 6, 7].length ≤ 12 ∧
      (∃ padded, padPrompt [1, 2, 3, 4, 5, 6, 7] 9 (bucketsUpTo [16, 8, 0, 12, 8, 4] 12) = .ok (padded, 7) ∧
        padded.take 7 = [1, 2, 3, 4, 5, 6, 7] ∧ ∀ id ∈ padded.drop 7, id = 9) ∧
      IsLeast {bucket | bucket ∈ bucketsUpTo [16, 8, 0, 12, 8, 4] 12 ∧ 7 ≤ bucket} 8 ∧
      padPrompt [7, 6, 5, 4, 3, 2, 1, 0] 9 (bucketsUpTo [16, 8, 0, 12, 8, 4] 12) =
        .ok ([7, 6, 5, 4, 3, 2, 1, 0], 8) := by
  have some : [1, 2, 3, 4, 5, 6, 7] ≠ ([] : List UInt32) := by decide
  obtain ⟨-, held, -, -, least, -, -, -, again⟩ :=
    padded_to_least_bucket [16, 8, 0, 12, 8, 4] 12 [1, 2, 3, 4, 5, 6, 7] 9 some (by decide)
  obtain ⟨padded, ok, -, lead, rest⟩ := held rfl
  exact ⟨some, by decide, ⟨padded, ok, lead, rest⟩, least ⟨8, by decide, by decide⟩,
    again [7, 6, 5, 4, 3, 2, 1, 0] rfl rfl⟩

/-- Three tokens within the limit are not padded to a bucket of 2 ^ 62 tokens, which is accepted all the same. -/
theorem huge_bucket_not_padded :
    [1, 2, 3] ≠ ([] : List UInt32) ∧ [1, 2, 3].length ≤ 0x4000000000000000 ∧
      bucketsUpTo [0x4000000000000000] 0x4000000000000000 = [0x4000000000000000] ∧
      padPrompt [1, 2, 3] 0 (bucketsUpTo [0x4000000000000000] 0x4000000000000000) = .error (.defect .capacity) ∧
      ∀ padded, padPrompt [1, 2, 3] 0 (bucketsUpTo [0x4000000000000000] 0x4000000000000000) ≠ .ok padded := by
  have fails : padPrompt [1, 2, 3] 0 (bucketsUpTo [0x4000000000000000] 0x4000000000000000) =
      .error (.defect .capacity) := rfl
  exact ⟨by decide, by decide, by decide, fails, fun padded ok => by rw [fails] at ok; cases ok⟩

end SlotServe
