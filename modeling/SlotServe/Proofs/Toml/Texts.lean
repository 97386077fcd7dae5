import SlotServe.Toml.Statement
import SlotServe.Toml.Writer

/-! Texts in quotes read back. A text of printable characters without a single quote stands between double
quotes if it holds nothing that they give a meaning to, and between single ones otherwise. -/
namespace SlotServe.Toml

variable {text rest read : List Char} {c mark : Char}

section Runs

-- A character other than the mark ends a run, so that a run lies on one side of it.
theorem replicate_prefix_append (other : c ≠ mark) (front : List Char) (limit : Nat) :
    List.replicate limit mark <+: front ++ c :: rest ↔ List.replicate limit mark <+: front := by
  induction front generalizing limit with
  | nil => cases limit <;> simp [List.replicate_succ, other.symm]
  | cons first front ih => cases limit <;> simp [List.replicate_succ, List.cons_prefix_cons, ih]

theorem replicate_infix_append (other : c ≠ mark) (front : List Char) (limit : Nat) :
    List.replicate limit mark <:+: front ++ c :: rest ↔
      List.replicate limit mark <:+: front ∨ List.replicate limit mark <:+: rest := by
  induction front with
  | nil =>
    rw [List.nil_append, List.infix_cons_iff]
    refine or_congr_left ?_
    have alone := @replicate_prefix_append rest c mark other [] limit
    rw [List.nil_append] at alone
    rw [alone, List.prefix_nil, List.infix_nil]
  | cons first front ih =>
    rw [List.cons_append, List.infix_cons_iff, ih, List.infix_cons_iff, ← List.cons_append,
      replicate_prefix_append other, or_assoc]

theorem replicate_infix_replicate (limit run : Nat) :
    List.replicate limit mark <:+: List.replicate run mark ↔ limit ≤ run := by
  refine ⟨fun part => by simpa using part.length_le, fun enough => ?_⟩
  obtain ⟨more, rfl⟩ := Nat.exists_eq_add_of_le enough
  rw [← List.replicate_append_replicate]
  exact List.infix_append_of_infix_left (List.infix_refl _)

/-- The characters of a run stand side by side, together with those right before. -/
theorem le_longestRun_iff (limit run : Nat) (text : List Char) :
    limit ≤ longestRun mark run text ↔ List.replicate limit mark <:+: List.replicate run mark ++ text := by
  induction text generalizing run with
  | nil => rw [List.append_nil, longestRun, replicate_infix_replicate]
  | cons c rest ih =>
    rw [longestRun]
    split
    next same =>
      rw [ih, List.replicate_succ', List.append_assoc, same]
      rfl
    next other =>
      have either : limit ≤ max run (longestRun mark 0 rest) ↔ limit ≤ run ∨ limit ≤ longestRun mark 0 rest := by omega
      rw [either, replicate_infix_append other, replicate_infix_replicate, ih, List.replicate_zero, List.nil_append]

theorem longestRun_eq_zero_iff (text : List Char) : longestRun mark 0 text = 0 ↔ mark ∉ text := by
  have single : List.replicate 1 mark <:+: text ↔ mark ∈ text := by
    refine ⟨fun part => part.subset List.mem_cons_self, fun member => ?_⟩
    obtain ⟨front, back, rfl⟩ := List.append_of_mem member
    exact ⟨front, back, by simp⟩
  have count := @le_longestRun_iff mark 1 0 text
  rw [List.replicate_zero, List.nil_append, single] at count
  rw [← count]
  omega

end Runs

def IsPrintable (text : List Char) : Prop := ∀ c ∈ text, isPlain c = true ∧ c ≠ '\x27'

theorem readLiteral_char (plain : isPlain c = true ∧ c ≠ '\x27') :
    readLiteral false read (c :: rest) = readLiteral false (c :: read) rest := by
  rw [readLiteral.eq_def]
  split
  next same => cases same
  next same => cases (List.cons.inj same).1; cases plain.1
  next same => cases (List.cons.inj same).1; cases plain.1
  next same => exact absurd (List.cons.inj same).1 plain.2
  next same => exact absurd (List.cons.inj same).1 plain.2
  next same =>
    cases same
    rw [if_pos plain.1]

theorem readQuoted_char (plain : isPlain c = true) (quoteless : c ≠ '\x22') (escapeless : c ≠ '\x5c') :
    readQuoted false false read (c :: rest) = readQuoted false false (c :: read) rest := by
  rw [readQuoted.eq_def]
  split
  next same => cases same
  next same => cases (List.cons.inj same).1; cases plain
  next same => cases (List.cons.inj same).1; cases plain
  next same => exact absurd (List.cons.inj same).1 quoteless
  next same => exact absurd (List.cons.inj same).1 quoteless
  next same => exact absurd (List.cons.inj same).1 escapeless
  next same => exact absurd (List.cons.inj same).1 escapeless
  next same => exact absurd (List.cons.inj same).1 escapeless
  next same =>
    cases same
    simp [plain]

theorem readLiteral_text (printable : IsPrintable text) :
    readLiteral false read (text ++ '\x27' :: '\n' :: rest) =
      some (String.ofList (read.reverse ++ text), '\n' :: rest) := by
  induction text generalizing read with
  | nil => simp [readLiteral]
  | cons c text ih =>
    rw [List.cons_append, readLiteral_char (printable c List.mem_cons_self),
      ih fun d member => printable d (List.mem_cons_of_mem c member), List.reverse_cons, List.append_assoc]
    rfl

/-- Of the characters that may stand in plain quotes only the tab is escaped. -/
theorem escapedChar_eq (plain : isPlain c = true) (escapeless : c ≠ '\x5c') :
    escapedChar false c = if c = '\t' then ['\x5c', 't'] else [c] := by
  have other {d : Char} (control : isPlain d = false) : c ≠ d := by
    rintro rfl
    rw [plain] at control
    cases control
  by_cases tab : c = '\t'
  · subst tab
    rfl
  · rw [escapedChar, if_neg (other rfl), if_neg tab, if_neg (other rfl), if_neg (other rfl), if_neg (other rfl),
      if_neg escapeless, if_neg tab, if_neg]
    simp only [isPlain, tab, decide_false, Bool.false_or, Bool.and_eq_true, decide_eq_true_eq] at plain
    simp only [Bool.or_eq_true, decide_eq_true_eq]
    omega

theorem readQuoted_escapedChar (plain : isPlain c = true) (quoteless : c ≠ '\x22') (escapeless : c ≠ '\x5c') :
    readQuoted false false read (escapedChar false c ++ rest) = readQuoted false false (c :: read) rest := by
  rw [escapedChar_eq plain escapeless]
  split
  next tab =>
    subst tab
    rfl
  next => exact readQuoted_char plain quoteless escapeless

theorem readQuoted_text (printable : IsPrintable text) (quoteless : '\x22' ∉ text) (escapeless : '\x5c' ∉ text) :
    readQuoted false false read (escaped false 0 text ++ '\x22' :: '\n' :: rest) =
      some (String.ofList (read.reverse ++ text), '\n' :: rest) := by
  induction text generalizing read with
  | nil => simp [escaped, readQuoted]
  | cons c text ih =>
    rw [List.mem_cons, not_or] at quoteless escapeless
    rw [escaped, if_neg (Ne.symm quoteless.1), List.append_assoc,
      readQuoted_escapedChar (printable c List.mem_cons_self).1 (Ne.symm quoteless.1) (Ne.symm escapeless.1),
      ih (fun d member => printable d (List.mem_cons_of_mem c member)) quoteless.2 escapeless.2, List.reverse_cons,
      List.append_assoc]
    rfl

theorem quotesFor_eq (printable : IsPrintable text) :
    quotesFor text = if '\x22' ∈ text ∨ '\x5c' ∈ text then .literal else .plain := by
  have broken : text.contains '\n' = false := by
    rw [List.contains_eq_mem, decide_eq_false_iff_not]
    exact fun member => by cases (printable _ member).1
  have control : text.any isControl = false := by
    rw [List.any_eq_false]
    intro c member
    have plain := (printable c member).1
    by_cases tab : c = '\t'
    · subst tab
      decide
    · simp only [isPlain, tab, decide_false, Bool.false_or, Bool.and_eq_true, decide_eq_true_eq] at plain
      simp only [isControl, Bool.or_eq_true, Bool.and_eq_true, decide_eq_true_eq]
      omega
  have singles : longestRun '\x27' 0 text = 0 :=
    (longestRun_eq_zero_iff text).mpr fun member => (printable _ member).2 rfl
  unfold quotesFor
  simp only [broken, control, singles, longestRun_eq_zero_iff, List.contains_eq_mem]
  by_cases quotes : '\x22' ∈ text <;> by_cases escapes : '\x5c' ∈ text <;> simp [quotes, escapes]

theorem quoted_eq (printable : IsPrintable text) : quoted text =
    if '\x22' ∈ text ∨ '\x5c' ∈ text then '\x27' :: text ++ ['\x27']
    else '\x22' :: escaped false 0 text ++ ['\x22'] := by
  unfold quoted
  rw [quotesFor_eq printable]
  by_cases marks : '\x22' ∈ text ∨ '\x5c' ∈ text
  · rw [if_pos marks, if_pos marks]
  · rw [if_neg marks, if_neg marks]

/-- What stands after plain quotes does not make long ones of them. -/
theorem escaped_head (printable : IsPrintable text) (quoteless : '\x22' ∉ text) (escapeless : '\x5c' ∉ text)
    (others : List Char) : escaped false 0 text ++ '\x22' :: '\n' :: rest ≠ '\x22' :: '\x22' :: others := by
  cases text with
  | nil => simp [escaped]
  | cons c text =>
    rw [List.mem_cons, not_or] at quoteless escapeless
    rw [escaped, if_neg (Ne.symm quoteless.1),
      escapedChar_eq (printable c List.mem_cons_self).1 (Ne.symm escapeless.1)]
    split
    next => simp
    next => simp [Ne.symm quoteless.1]

theorem readScalar_plain (printable : IsPrintable text) (quoteless : '\x22' ∉ text) (escapeless : '\x5c' ∉ text) :
    readScalar ('\x22' :: (escaped false 0 text ++ '\x22' :: '\n' :: rest)) =
      some (.string (String.ofList text), '\n' :: rest) := by
  unfold readScalar
  split
  next same => exact absurd (List.cons.inj same).2 (escaped_head printable quoteless escapeless _)
  next same =>
    rw [← (List.cons.inj same).2, readQuoted_text printable quoteless escapeless]
    rfl
  next same => cases (List.cons.inj same).1
  next same => cases (List.cons.inj same).1
  next same => cases (List.cons.inj same).1
  next same => cases (List.cons.inj same).1
  next other _ _ _ _ => exact absurd rfl (other _)

theorem readScalar_literal (printable : IsPrintable text) (some : text ≠ []) :
    readScalar ('\x27' :: (text ++ '\x27' :: '\n' :: rest)) =
      Option.some (.string (String.ofList text), '\n' :: rest) := by
  have single (others : List Char) : text ++ '\x27' :: '\n' :: rest ≠ '\x27' :: '\x27' :: others := by
    obtain ⟨c, text, rfl⟩ := List.exists_cons_of_ne_nil some
    exact fun same => (printable c List.mem_cons_self).2 (List.cons.inj same).1
  unfold readScalar
  split
  next same => cases (List.cons.inj same).1
  next same => cases (List.cons.inj same).1
  next same => exact absurd (List.cons.inj same).2 (single _)
  next same =>
    rw [← (List.cons.inj same).2, readLiteral_text printable]
    rfl
  next same => cases (List.cons.inj same).1
  next same => cases (List.cons.inj same).1
  next other _ _ => exact absurd rfl (other _)

/-- A printable text reads back from the quotes that are chosen for it. -/
theorem readScalar_quoted (printable : IsPrintable text) :
    readScalar (quoted text ++ '\n' :: rest) = some (.string (String.ofList text), '\n' :: rest) := by
  rw [quoted_eq printable]
  split
  next marks =>
    have some : text ≠ [] := by
      rintro rfl
      simp at marks
    simpa using readScalar_literal printable some
  next unmarked =>
    rw [not_or] at unmarked
    simpa using readScalar_plain printable unmarked.1 unmarked.2

end SlotServe.Toml
