import Mathlib.Algebra.Order.Ring.Nat
import Mathlib.Order.Nat
import SlotServe.Decimal.Shortest

/-! Numbers and the digits that they are written with. Digits read back as their number, a number other
than zero does not begin with a zero, and moving the point moves the count of digits. -/
namespace SlotServe.Decimal

theorem value_eq (digits : List Char) : value digits = Nat.ofDigitChars 10 digits 0 := by
  rw [Nat.ofDigitChars_eq_foldl]
  simp only [value, digitValue, Nat.mul_comm]

theorem value_append (front back : List Char) :
    value (front ++ back) = value front * 10 ^ back.length + value back := by
  simp only [value_eq, Nat.ofDigitChars_append]
  rw [Nat.ofDigitChars_eq_ofDigitChars_zero, Nat.mul_comm]

theorem value_zeros (count : Nat) (digits : List Char) : value (List.replicate count '0' ++ digits) = value digits := by
  rw [value_append, value_eq (List.replicate count '0'), Nat.ofDigitChars_replicate_zero]
  simp

theorem value_digits (number : Nat) : value (Nat.toDigits 10 number) = number := by
  rw [value_eq, Nat.ofDigitChars_ten_toDigits]

theorem isDigit_of_mem_digits {number : Nat} {c : Char} (member : c ∈ Nat.toDigits 10 number) : isDigit c = true :=
  Nat.isDigit_of_mem_toDigits (by decide) (by decide) member

/-- Induction on the digits from the last one on: the first digit is that of the number without its last. -/
theorem digits_head (number : Nat) (some : number ≠ 0) :
    ∃ first rest, Nat.toDigits 10 number = first :: rest ∧ first ≠ '0' := by
  induction number using Nat.strongRecOn with
  | ind number ih =>
    rw [Nat.toDigits_eq_if (by decide)]
    split
    next single =>
      refine ⟨_, [], rfl, ?_⟩
      rwa [Ne, Nat.digitChar_eq_zero]
    next many =>
      obtain ⟨first, rest, written, nonzero⟩ := ih (number / 10) (by omega) (by omega)
      exact ⟨first, rest ++ [(number % 10).digitChar], by rw [written, List.cons_append], nonzero⟩

theorem length_digits_le {number width : Nat} (some : 0 < width) (below : number < 10 ^ width) :
    (Nat.toDigits 10 number).length ≤ width :=
  (Nat.length_toDigits_le_iff (by decide) some).mpr below

section

variable {width number : Nat}

theorem paddedDigits_eq (width number : Nat) :
    paddedDigits width number =
      List.replicate (width - (Nat.toDigits 10 number).length) '0' ++ Nat.toDigits 10 number := by
  rw [paddedDigits, Nat.toList_repr]

theorem length_paddedDigits (some : 0 < width) (below : number < 10 ^ width) :
    (paddedDigits width number).length = width := by
  have fits := length_digits_le some below
  rw [paddedDigits_eq, List.length_append, List.length_replicate]
  omega

theorem value_paddedDigits (width number : Nat) : value (paddedDigits width number) = number := by
  rw [paddedDigits_eq, value_zeros, value_digits]

theorem isDigit_of_mem_paddedDigits {c : Char} (member : c ∈ paddedDigits width number) : isDigit c = true := by
  rw [paddedDigits_eq, List.mem_append] at member
  rcases member with zero | digit
  · rw [List.eq_of_mem_replicate zero]
    rfl
  · exact isDigit_of_mem_digits digit

end

theorem numDigits_le_iff (number count : Nat) : numDigits number ≤ count ↔ number < 10 ^ count := by
  unfold numDigits
  by_cases none : number = 0
  · rw [if_pos none, none]
    exact iff_of_true (Nat.zero_le count) (Nat.pow_pos (by decide))
  · rw [if_neg none]
    cases count with
    | zero =>
      have some : 0 < number.repr.length := Nat.length_repr_pos
      rw [Nat.pow_zero]
      omega
    | succ count => exact Nat.length_repr_le_iff (Nat.succ_pos count)

theorem numDigits_shift {number : Nat} (some : number ≠ 0) (places : Nat) :
    numDigits (number * 10 ^ places) = numDigits number + places := by
  refine eq_of_forall_ge_iff fun count => ?_
  have unit : 0 < 10 ^ places := Nat.pow_pos (by decide)
  rw [numDigits_le_iff]
  by_cases fits : places ≤ count
  · obtain ⟨more, rfl⟩ := Nat.exists_eq_add_of_le' fits
    rw [Nat.pow_add, Nat.mul_lt_mul_right unit, ← numDigits_le_iff]
    omega
  · have more : 10 ^ count ≤ 10 ^ places := Nat.pow_le_pow_right (by decide) (by omega)
    have least : 1 * 10 ^ places ≤ number * 10 ^ places := Nat.mul_le_mul_right _ (Nat.pos_of_ne_zero some)
    omega

end SlotServe.Decimal
