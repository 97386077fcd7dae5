import SlotServe.Proofs.Binary32.Fraction
import SlotServe.Toml.Statement

/-! Written numbers read back. A number begins with digits and goes on with a mark that stands in no moment,
so it is not taken for one; the digits before the mark are then read as they were written. -/
namespace SlotServe.Toml

open Decimal (isDigit isDigit_of_mem_digits)

variable {digits rest text : List Char} {mark : Char}

section Digits

variable (all : ∀ c ∈ digits, isDigit c = true) (stop : isDigit mark = false) (plain : mark ≠ '_')

include all stop plain

/-- The mark is what the digits end at. -/
theorem moreDigits_append : moreDigits isDigit (digits ++ mark :: rest) = some (digits, mark :: rest) := by
  induction digits with
  | nil =>
    rw [List.nil_append, moreDigits.eq_def]
    simp [stop, plain]
  | cons digit digits ih =>
    rw [List.forall_mem_cons] at all
    rw [List.cons_append, moreDigits.eq_def]
    simp [all.1, ih all.2]

theorem readDigits_append (some : digits ≠ []) :
    readDigits isDigit (digits ++ mark :: rest) = Option.some (digits, mark :: rest) := by
  obtain ⟨digit, digits, rfl⟩ := List.exists_cons_of_ne_nil some
  have first : isDigit digit = true := all digit List.mem_cons_self
  rw [List.cons_append, readDigits, if_pos first]
  exact moreDigits_append all stop plain

end Digits

theorem readWhole_append (number : Nat) (stop : isDigit mark = false) (plain : mark ≠ '_') :
    readWhole (Nat.toDigits 10 number ++ mark :: rest) = some (Nat.toDigits 10 number, mark :: rest) := by
  by_cases zero : number = 0
  · subst zero
    rfl
  · obtain ⟨first, others, written, nonzero⟩ := Decimal.digits_head number zero
    unfold readWhole
    split
    next same =>
      rw [written] at same
      exact absurd (List.cons.inj same).1 nonzero
    next =>
      exact readDigits_append (fun c => isDigit_of_mem_digits) stop plain (by rw [written]; exact List.cons_ne_nil _ _)

def Untimed (text : List Char) : Prop :=
  ∃ digits mark rest, text = digits ++ mark :: rest ∧ (∀ c ∈ digits, isDigit c = true) ∧ isDigit mark = false ∧
    mark ≠ '-' ∧ mark ≠ ':'

namespace Untimed

theorem expect (untimed : Untimed text) {separator : Char} (dated : separator = '-' ∨ separator = ':') :
    expect separator text = none := by
  obtain ⟨digits, mark, rest, rfl, all, stop, dash, colon⟩ := untimed
  have digitless : isDigit separator = false := by rcases dated with rfl | rfl <;> rfl
  cases digits with
  | nil =>
    have other : separator ≠ mark := by rcases dated with rfl | rfl <;> exact Ne.symm ‹_›
    exact if_neg other
  | cons digit digits =>
    refine if_neg fun same => ?_
    rw [same, all digit List.mem_cons_self] at digitless
    cases digitless

theorem readField (untimed : Untimed text) {count least most number : Nat}
    (found : readField count least most text = some (number, rest)) : Untimed rest := by
  obtain ⟨digits, mark, others, rfl, all, stop, marks⟩ := untimed
  unfold Toml.readField at found
  dsimp only at found
  split at found
  next field =>
    cases found
    have within : count ≤ digits.length := by
      by_contra beyond
      have last : mark ∈ (digits ++ mark :: others).take count := by
        rw [List.take_append, List.mem_append]
        refine .inr ?_
        obtain ⟨more, extra⟩ : ∃ more, count - digits.length = more + 1 := ⟨count - digits.length - 1, by omega⟩
        rw [extra, List.take_succ_cons]
        exact List.mem_cons_self
      rw [List.all_eq_true.mp field.2.1 mark last] at stop
      cases stop
    rw [List.drop_append_of_le_length within]
    exact ⟨digits.drop count, mark, others, rfl, fun c member => all c (List.mem_of_mem_drop member), stop, marks⟩
  next => cases found

theorem readMoment (untimed : Untimed text) : readMoment text = none := by
  have date : readDate text = none := by
    unfold readDate
    cases found : Toml.readField 4 0 9999 text with
    | none => rfl
    | some field => simp [(untimed.readField found).expect (.inl rfl)]
  have clock : readClock text = none := by
    unfold readClock
    cases found : Toml.readField 2 0 23 text with
    | none => rfl
    | some field => simp [(untimed.readField found).expect (.inr rfl)]
  rw [Toml.readMoment, date]
  exact clock

end Untimed

theorem readMoment_of_head (stop : isDigit mark = false) : readMoment (mark :: rest) = none := by
  have field (count least most : Nat) : readField (count + 1) least most (mark :: rest) = none := by
    simp [readField, stop]
  rw [readMoment, readDate, field 3]
  change readClock _ = none
  rw [readClock, field 1]
  rfl

def fractional (negative : Bool) (number : Nat) (digits : List Char) : Decimal.Numeral :=
  ⟨negative, Decimal.value (Nat.toDigits 10 number ++ digits), -digits.length, false⟩

section Unsigned

variable (negative : Bool) (number : Nat)

-- The readers look for words and bases before they look for digits, so that their matches are on the first
-- characters of the text; these two lemmas rule the other cases out.
theorem head_digits {c : Char} (same : Nat.toDigits 10 number ++ text = c :: rest) : isDigit c = true := by
  obtain ⟨digit, digits, written⟩ := List.exists_cons_of_ne_nil (Nat.toDigits_ne_nil : Nat.toDigits 10 number ≠ [])
  rw [written, List.cons_append] at same
  refine @isDigit_of_mem_digits number _ ?_
  rw [written, (List.cons.inj same).1]
  exact List.mem_cons_self

theorem second_digits {c d : Char} (same : Nat.toDigits 10 number ++ mark :: text = c :: d :: rest) :
    isDigit d = true ∨ d = mark := by
  obtain ⟨digit, digits, written⟩ := List.exists_cons_of_ne_nil (Nat.toDigits_ne_nil : Nat.toDigits 10 number ≠ [])
  rw [written, List.cons_append] at same
  cases digits with
  | nil => exact .inr (List.cons.inj (List.cons.inj same).2).1.symm
  | cons next digits =>
    refine .inl (@isDigit_of_mem_digits number _ ?_)
    rw [written, ← (List.cons.inj (List.cons.inj same).2).1]
    exact List.mem_cons_of_mem _ List.mem_cons_self

theorem readUnsigned_whole :
    readUnsigned negative (Nat.toDigits 10 number ++ '\n' :: rest) =
      let signed : Int := if negative then -number else number
      if fitsInteger signed then some (.integer signed, '\n' :: rest) else none := by
  unfold readUnsigned
  split
  next same => cases head_digits number same
  next same => cases head_digits number same
  next =>
    rw [readWhole_append number rfl (by decide)]
    simp [Decimal.Numeral.toInt?, Decimal.value_digits]

theorem readUnsigned_fraction (all : ∀ c ∈ digits, isDigit c = true) (some : digits ≠ [])
    (finite : (fractional negative number digits).toDouble? ≠ none) :
    readUnsigned negative (Nat.toDigits 10 number ++ '.' :: (digits ++ '\n' :: rest)) =
      Option.some (.real (.finite (fractional negative number digits)), '\n' :: rest) := by
  unfold readUnsigned
  split
  next same => cases head_digits number same
  next same => cases head_digits number same
  next =>
    rw [readWhole_append number rfl (by decide)]
    simp only [fractional] at finite ⊢
    simp [readDigits_append all rfl (by decide : '\n' ≠ '_') some, Decimal.Numeral.toInt?, finite]

end Unsigned

/-- Neither a sign nor a base stands before the digits. -/
theorem readNumber_digits (number : Nat) (ends : mark = '.' ∨ mark = '\n') :
    readNumber (Nat.toDigits 10 number ++ mark :: text) =
      readUnsigned false (Nat.toDigits 10 number ++ mark :: text) := by
  have baseless {c : Char} (base : isDigit c = false) (other : c ≠ '.' ∧ c ≠ '\n') :
      ¬ (isDigit c = true ∨ c = mark) := by
    rcases ends with rfl | rfl <;> simp [base, other]
  unfold readNumber
  split
  next same => exact absurd (second_digits number same) (baseless rfl (by decide))
  next same => exact absurd (second_digits number same) (baseless rfl (by decide))
  next same => exact absurd (second_digits number same) (baseless rfl (by decide))
  next same => cases head_digits number same
  next same => cases head_digits number same
  next => rfl

/-- A magnitude is written as digits around a point, which say what the pointed numeral says. -/
theorem positional_toList (numeral : Decimal.Numeral) : ∃ number digits,
    (Decimal.positional numeral).toList = Nat.toDigits 10 number ++ '.' :: digits ∧ (∀ c ∈ digits, isDigit c = true) ∧
      digits ≠ [] ∧ ∀ negative, fractional negative number digits = Decimal.pointed negative numeral := by
  unfold Decimal.positional Decimal.pointed
  split
  next whole =>
    refine ⟨numeral.digits * 10 ^ numeral.exponent.toNat, ['0'], ?_, ?_, List.cons_ne_nil _ _, fun negative => ?_⟩
    · simp
    · exact List.forall_mem_singleton.mpr rfl
    · rw [fractional, Decimal.value_append, Decimal.value_digits]
      rfl
  next fraction =>
    have places : 0 < (-numeral.exponent).toNat := by omega
    have below : numeral.digits % 10 ^ (-numeral.exponent).toNat < 10 ^ (-numeral.exponent).toNat :=
      Nat.mod_lt _ (Nat.pow_pos (by decide))
    have length := Decimal.length_paddedDigits places below
    refine ⟨numeral.digits / 10 ^ (-numeral.exponent).toNat, Decimal.paddedDigits (-numeral.exponent).toNat
      (numeral.digits % 10 ^ (-numeral.exponent).toNat), ?_, fun c => Decimal.isDigit_of_mem_paddedDigits,
      List.ne_nil_of_length_pos (by rw [length]; exact places), fun negative => ?_⟩
    · simp
    · rw [fractional, Decimal.value_append, Decimal.value_digits, Decimal.value_paddedDigits, length,
        Nat.div_add_mod', Int.toNat_of_nonneg (by omega), neg_neg]

/-- A number begins neither with quotes nor like a truth value, and is no moment. -/
theorem readScalar_number (undated : readMoment (mark :: rest) = none)
    (plain : isDigit mark = true ∨ mark = '-' ∨ mark = 'i') :
    readScalar (mark :: rest) = readNumber (mark :: rest) := by
  have other {c : Char} (special : isDigit c = false ∧ c ≠ '-' ∧ c ≠ 'i') (same : mark = c) : False := by
    subst same
    simp [special] at plain
  unfold readScalar
  split
  next same => exact (other (by decide) (List.cons.inj same).1).elim
  next same => exact (other (by decide) (List.cons.inj same).1).elim
  next same => exact (other (by decide) (List.cons.inj same).1).elim
  next same => exact (other (by decide) (List.cons.inj same).1).elim
  next same => exact (other (by decide) (List.cons.inj same).1).elim
  next same => exact (other (by decide) (List.cons.inj same).1).elim
  next => rw [undated]

theorem readScalar_digits (number : Nat) (ends : mark = '.' ∨ mark = '\n') :
    readScalar (Nat.toDigits 10 number ++ mark :: text) =
      readUnsigned false (Nat.toDigits 10 number ++ mark :: text) := by
  have untimed : Untimed (Nat.toDigits 10 number ++ mark :: text) := by
    refine ⟨_, mark, text, rfl, fun c => isDigit_of_mem_digits, ?_⟩
    rcases ends with rfl | rfl <;> decide
  rw [← readNumber_digits number ends]
  cases written : Nat.toDigits 10 number ++ mark :: text with
  | nil => cases (List.append_eq_nil_iff.mp written).2
  | cons c others => exact readScalar_number (written ▸ untimed.readMoment) (.inl (head_digits number written))

theorem readScalar_negative (text : List Char) : readScalar ('-' :: text) = readUnsigned true text :=
  readScalar_number (readMoment_of_head rfl) (.inr (.inl rfl))

theorem readScalar_integer {value : Int} (fits : fitsInteger value = true) :
    readScalar ((toString value).toList ++ '\n' :: rest) = some (.integer value, '\n' :: rest) := by
  cases value with
  | ofNat number =>
    have written : (toString (Int.ofNat number)).toList = Nat.toDigits 10 number := Nat.toList_repr
    rw [written, readScalar_digits number (.inr rfl), readUnsigned_whole]
    exact if_pos fits
  | negSucc number =>
    have written : (toString (Int.negSucc number)).toList = '-' :: Nat.toDigits 10 (number + 1) := by
      change ("-" ++ (number + 1).repr).toList = _
      rw [String.toList_append, Nat.toList_repr]
      rfl
    rw [written, List.cons_append, readScalar_negative, readUnsigned_whole]
    exact if_pos fits

theorem readUnsigned_positional (negative : Bool) (numeral : Decimal.Numeral) (finite : numeral.toDouble? ≠ none) :
    readUnsigned negative ((Decimal.positional numeral).toList ++ '\n' :: rest) =
      some (.real (.finite (Decimal.pointed negative numeral)), '\n' :: rest) := by
  obtain ⟨number, digits, written, all, some, meant⟩ := positional_toList numeral
  rw [written, List.append_assoc, List.cons_append, ← meant negative]
  refine readUnsigned_fraction negative number all some ?_
  rwa [meant negative, Decimal.pointed_reads]

/-- The written form of a 32-bit number, whatever sign it has and also if it is infinite. -/
theorem readScalar_real {x : Float32} (number : x.isNaN = false) :
    readScalar ((realText x).toList ++ '\n' :: rest) = some (.real (.written x), '\n' :: rest) := by
  unfold realText Real.written
  rw [Binary32.isNotNumber_eq_false number]
  by_cases finite : Binary32.isFinite x = true
  · have readable : (Decimal.shortest (Binary32.magnitude x)).toDouble? ≠ none := by
      obtain ⟨found, read, -⟩ := Decimal.shortest_reads (Binary32.magnitude_isSingle finite)
      rw [read]
      exact Option.some_ne_none found
    have read (negative : Bool) := @readUnsigned_positional rest negative _ readable
    cases sign : Binary32.isNegative x with
    | false =>
      obtain ⟨whole, digits, written, -⟩ := positional_toList (Decimal.shortest (Binary32.magnitude x))
      simp only [finite, if_true, if_false, String.empty_append, Bool.false_eq_true]
      rw [← read false, written, List.append_assoc, List.cons_append]
      exact readScalar_digits whole (.inl rfl)
    | true =>
      simp only [finite, if_true, if_false, String.toList_append, Bool.false_eq_true]
      exact (readScalar_negative _).trans (read true)
  · cases sign : Binary32.isNegative x with
    | false =>
      simp only [finite, if_false, Bool.false_eq_true]
      exact readScalar_number (readMoment_of_head rfl) (.inr (.inr rfl))
    | true =>
      simp only [finite, if_true, if_false, Bool.false_eq_true]
      exact readScalar_negative _

end SlotServe.Toml
