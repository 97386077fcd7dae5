import SlotServe.Proofs.Toml.Numbers
import SlotServe.Proofs.Toml.Texts
import SlotServe.Toml.Statement

/-! Written sections read back as statements, one for each header and one for each line. -/
namespace SlotServe.Toml

open Decimal (isDigit)

variable {text rest : List Char} {mark : Char}

def Entry.toml : Entry → Toml
  | .string value => .string value
  | .integer value => .integer value
  | .real value => .real (.written value)
  | .bool value => .bool value

def Entry.IsReadable : Entry → Prop
  | .string value => IsPrintable value.toList
  | .real value => value.isNaN = false
  | _ => True

theorem Entry.readScalar_text {entry : Entry} (readable : entry.IsReadable) {written : String}
    (writes : entry.text? = some written) :
    readScalar (written.toList ++ '\n' :: rest) = some (entry.toml, '\n' :: rest) := by
  cases entry with
  | string value =>
    cases writes
    rw [String.toList_ofList, readScalar_quoted readable, String.ofList_toList]
    rfl
  | integer value =>
    rw [Entry.text?, Option.ite_none_right_eq_some] at writes
    obtain ⟨fits, same⟩ := writes
    cases same
    exact readScalar_integer fits
  | real value =>
    cases writes
    exact readScalar_real readable
  | bool value =>
    cases writes
    cases value <;> rfl

section Values

theorem readScalar_none (other : mark = ' ' ∨ mark = '\t' ∨ mark = '\n' ∨ mark = '[' ∨ mark = '\x7b') :
    readScalar (mark :: rest) = none := by
  have stop : isDigit mark = false := by rcases other with rfl | rfl | rfl | rfl | rfl <;> rfl
  have undated : readMoment (mark :: rest) = none := readMoment_of_head stop
  rcases other with rfl | rfl | rfl | rfl | rfl <;> simp only [readScalar, undated] <;> rfl

variable {value : Toml} (found : readScalar text = some (value, rest))

include found

theorem head_of_readScalar : ∃ c others, text = c :: others ∧
    ¬ (c = ' ' ∨ c = '\t' ∨ c = '\n' ∨ c = '[' ∨ c = '\x7b') := by
  cases text with
  | nil => cases found
  | cons c others =>
    refine ⟨c, others, rfl, fun other => ?_⟩
    rw [readScalar_none other] at found
    cases found

theorem skipBlank_value : skipBlank (' ' :: text) = text := by
  obtain ⟨c, others, rfl, other⟩ := head_of_readScalar found
  rw [not_or, not_or] at other
  have blank : isBlank c = false := by
    rw [isBlank, decide_eq_false other.1, decide_eq_false other.2.1]
    rfl
  rw [skipBlank, List.dropWhile_cons_of_pos rfl, List.dropWhile_cons_of_neg (Bool.eq_false_iff.mp blank)]

theorem readValue_scalar (steps depth : Nat) : readValue (steps + 1) depth text = some (value, rest) := by
  obtain ⟨c, others, rfl, other⟩ := head_of_readScalar found
  simp only [not_or] at other
  rw [readValue.eq_def]
  split
  next same => cases same
  next same _ => exact absurd (List.cons.inj same).1 other.2.2.2.1
  next same _ => exact absurd (List.cons.inj same).1 other.2.2.2.2
  next same => exact absurd (List.cons.inj same).1 other.2.2.2.1
  next same => exact absurd (List.cons.inj same).1 other.2.2.2.2
  next => exact found

end Values

def IsBareKey (key : String) : Prop := key.toList ≠ [] ∧ key.toList.all isBare = true

instance (key : String) : Decidable (IsBareKey key) := inferInstanceAs (Decidable (_ ∧ _))

section Keys

/-- The first character of a bare key begins no other thing. -/
theorem IsBareKey.head {key : String} (bare : IsBareKey key) :
    ∃ c others, key.toList = c :: others ∧ isBare c = true := by
  obtain ⟨c, others, written⟩ := List.exists_cons_of_ne_nil bare.1
  exact ⟨c, others, written, List.all_eq_true.mp bare.2 c (written ▸ List.mem_cons_self)⟩

theorem ne_of_isBare {c d : Char} (bare : isBare c = true) (other : isBare d = false) : c ≠ d := by
  rintro rfl
  rw [bare] at other
  cases other

theorem skipBlank_of_isBare {c : Char} (bare : isBare c = true) : skipBlank (c :: rest) = c :: rest := by
  refine List.dropWhile_cons_of_neg (Bool.eq_false_iff.mp ?_)
  rw [isBlank, decide_eq_false (ne_of_isBare bare rfl), decide_eq_false (ne_of_isBare bare rfl)]
  rfl

theorem skipLines_of_isBare {c : Char} (bare : isBare c = true) : skipLines false (c :: rest) = c :: rest := by
  rw [skipLines.eq_def]
  split
  next same => exact absurd (List.cons.inj same).1 (ne_of_isBare bare rfl)
  next same => exact absurd (List.cons.inj same).1 (ne_of_isBare bare rfl)
  next same =>
    cases same
    simp [isBlank, @ne_of_isBare c '#' bare rfl, @ne_of_isBare c ' ' bare rfl, @ne_of_isBare c '\t' bare rfl]
  next same => cases same

theorem readKeyPart_bare {key : String} (bare : IsBareKey key) (stop : isBare mark = false) :
    readKeyPart (key.toList ++ mark :: rest) = some (key, mark :: rest) := by
  obtain ⟨c, others, written, first⟩ := bare.head
  have all := List.all_eq_true.mp bare.2
  have bareKey : (key.toList ++ mark :: rest).takeWhile isBare = key.toList := by
    rw [List.takeWhile_append_of_pos all, List.takeWhile_cons_of_neg (Bool.eq_false_iff.mp stop), List.append_nil]
  have after : (key.toList ++ mark :: rest).dropWhile isBare = mark :: rest := by
    rw [List.dropWhile_append_of_pos all, List.dropWhile_cons_of_neg (Bool.eq_false_iff.mp stop)]
  rw [readKeyPart.eq_def]
  split
  next same =>
    rw [written] at same
    exact absurd (List.cons.inj same).1 (ne_of_isBare first rfl)
  next same =>
    rw [written] at same
    exact absurd (List.cons.inj same).1 (ne_of_isBare first rfl)
  next =>
    simp [bareKey, after, bare.1]

theorem skipBlank_key {key : String} (bare : IsBareKey key) : skipBlank (key.toList ++ rest) = key.toList ++ rest := by
  obtain ⟨c, others, written, first⟩ := bare.head
  rw [written, List.cons_append, skipBlank_of_isBare first]

theorem intercalate_cons (part next : String) (path : List String) :
    (".".intercalate (part :: next :: path)).toList =
      part.toList ++ '.' :: (".".intercalate (next :: path)).toList := by
  simp [String.toList_intercalate]

theorem head_path {path : List String} (bare : ∀ part ∈ path, IsBareKey part) (some : path ≠ []) :
    ∃ c others, (".".intercalate path).toList = c :: others ∧ isBare c = true := by
  obtain ⟨part, path, rfl⟩ := List.exists_cons_of_ne_nil some
  obtain ⟨c, others, written, first⟩ := (bare part List.mem_cons_self).head
  cases path with
  | nil => exact ⟨c, others, by rw [String.intercalate_singleton, written], first⟩
  | cons next path => exact ⟨c, _, by rw [intercalate_cons, written, List.cons_append], first⟩

/-- The parts of a path stand between dots; what ends it is neither part of a key nor, after blanks, a dot. -/
theorem readKey_path {path : List String} (bare : ∀ part ∈ path, IsBareKey part) (some : path ≠ [])
    {limit : Nat} (short : path.length ≤ limit) (stop : isBare mark = false)
    (last : ∀ others, skipBlank (mark :: rest) ≠ '.' :: others) :
    readKey limit ((".".intercalate path).toList ++ mark :: rest) = Option.some (path, skipBlank (mark :: rest)) := by
  induction path generalizing limit with
  | nil => exact absurd rfl some
  | cons part path ih =>
    obtain ⟨limit, rfl⟩ : ∃ fewer, limit = fewer + 1 := ⟨limit - 1, by rw [List.length_cons] at short; omega⟩
    have first := bare part List.mem_cons_self
    cases path with
    | nil =>
      rw [readKey, String.intercalate_singleton, skipBlank_key first, readKeyPart_bare first stop,
        Option.bind_eq_bind, Option.bind_some]
      dsimp only
      split
      next same => exact absurd same (last _)
      next => rfl
    | cons next path =>
      have later := ih (fun other member => bare other (List.mem_cons_of_mem part member)) (List.cons_ne_nil _ _)
        (Nat.le_of_succ_le_succ short)
      rw [readKey, intercalate_cons, List.append_assoc, List.cons_append, skipBlank_key first,
        readKeyPart_bare first rfl]
      change (readKey limit _).bind _ = _
      rw [later]
      rfl

theorem readStatement_assign {key : String} (bare : IsBareKey key) {value : Toml}
    (found : readScalar text = some (value, '\n' :: rest)) (steps : Nat) :
    readStatement (steps + 1) (key.toList ++ ' ' :: '=' :: ' ' :: text) = some (.assign [key] value, rest) := by
  have path : readKey (depthLimit - 1) (key.toList ++ ' ' :: '=' :: ' ' :: text) =
      some ([key], '=' :: ' ' :: text) := by
    have path := @readKey_path ('=' :: ' ' :: text) ' ' [key] (List.forall_mem_singleton.mpr bare)
      (List.cons_ne_nil _ _) (depthLimit - 1) (by decide : 1 ≤ depthLimit - 1) rfl (fun others same => by cases same)
    rwa [String.intercalate_singleton] at path
  obtain ⟨c, others, written, first⟩ := bare.head
  unfold readStatement
  split
  next same =>
    rw [written] at same
    exact absurd (List.cons.inj same).1 (ne_of_isBare first rfl)
  next same =>
    rw [written] at same
    exact absurd (List.cons.inj same).1 (ne_of_isBare first rfl)
  next =>
    rw [path]
    change (readValue (steps + 1) (depthLimit - 1) (skipBlank (' ' :: text))).bind _ = _
    rw [skipBlank_value found, readValue_scalar found]
    rfl

theorem readStatement_header {path : List String} (bare : ∀ part ∈ path, IsBareKey part) (some : path ≠ [])
    (short : path.length < depthLimit) (steps : Nat) :
    readStatement steps ('[' :: ((".".intercalate path).toList ++ ']' :: '\n' :: rest)) =
      Option.some (.header path, rest) := by
  have read := @readKey_path ('\n' :: rest) ']' path bare some (depthLimit - 1) (Nat.le_sub_one_of_lt short) rfl
    (fun others same => by cases same)
  have single (others : List Char) : (".".intercalate path).toList ++ ']' :: '\n' :: rest ≠ '[' :: others := by
    obtain ⟨c, path, written, first⟩ := head_path bare some
    rw [written]
    exact fun same => ne_of_isBare first rfl (List.cons.inj same).1
  unfold readStatement
  split
  next same => exact absurd (List.cons.inj same).2 (single _)
  next same =>
    rw [← (List.cons.inj same).2, read]
    rfl
  next other => exact absurd rfl (other _)

end Keys

/-- A text that reads as statements, when there are steps for them. It has a character for each. -/
structure Reads (bound : Nat) (text : List Char) (found : List Statement) : Prop where
  short : found.length ≤ text.length
  unmarked : text.head? ≠ some '\ufeff'
  read : ∀ steps, found.length < steps → readStatements bound steps text = some found

namespace Reads

variable {bound : Nat} {found : List Statement} {statement : Statement}

theorem nil (bound : Nat) : Reads bound [] [] where
  short := Nat.le_refl 0
  unmarked := by simp
  read steps more := by
    obtain ⟨fewer, rfl⟩ : ∃ fewer, steps = fewer + 1 := ⟨steps - 1, by omega⟩
    rfl

theorem newline (later : Reads bound rest found) : Reads bound ('\n' :: rest) found where
  short := Nat.le_succ_of_le later.short
  unmarked := by simp
  read steps more := by
    rw [← later.read steps more]
    obtain ⟨fewer, rfl⟩ : ∃ fewer, steps = fewer + 1 := ⟨steps - 1, by omega⟩
    rfl

theorem line {c : Char} (start : isBare c = true ∨ c = '[')
    (first : readStatement bound (c :: text) = some (statement, rest)) (shorter : rest.length ≤ text.length)
    (later : Reads bound rest found) : Reads bound (c :: text) (statement :: found) where
  short := Nat.succ_le_succ (later.short.trans shorter)
  unmarked := by
    have other : c ≠ '\ufeff' := by
      rcases start with bare | rfl
      · exact ne_of_isBare bare rfl
      · decide
    simpa using other
  read steps more := by
    obtain ⟨fewer, rfl⟩ : ∃ fewer, steps = fewer + 1 := ⟨steps - 1, by omega⟩
    have skipped : skipLines false (c :: text) = c :: text := by
      rcases start with bare | rfl
      · exact skipLines_of_isBare bare
      · rfl
    rw [readStatements, skipped]
    change (readStatement bound (c :: text)).bind _ = _
    rw [first]
    change (readStatements bound fewer rest).bind _ = _
    rw [later.read fewer (by rw [List.length_cons] at more; omega)]
    rfl

theorem statements {text : String} (reads : Reads (2 * text.toList.length + 2) text.toList found) :
    statements text = some found := by
  unfold Toml.statements
  split
  next rest same => exact absurd (congrArg List.head? same) reads.unmarked
  next => exact reads.read _ (by have short := reads.short; omega)

end Reads

def assignment (entry : String × Entry) : Statement := .assign [entry.1] entry.2.toml

def Section.statements (part : Section) : List Statement := .header part.path :: part.entries.map assignment

def AreKeys (keys : List String) : Prop := (∀ key ∈ keys, IsBareKey key) ∧ keys.Nodup

instance (keys : List String) : Decidable (AreKeys keys) := inferInstanceAs (Decidable (_ ∧ _))

structure Section.IsReadable (part : Section) : Prop where
  headed : part.path ≠ []
  shallow : part.path.length < depthLimit
  names : ∀ name ∈ part.path, IsBareKey name
  keys : ∀ key ∈ part.entries.map (·.1), IsBareKey key
  values : ∀ entry ∈ part.entries, entry.2.IsReadable

section Sections

variable {steps : Nat} {found : List Statement}

theorem Entry.isSome_integer (number : Nat) : (Entry.integer number).text?.isSome = decide (number < 2 ^ 63) := by
  have fits : fitsInteger number = decide (number < 2 ^ 63) := by
    rw [fitsInteger, Bool.eq_iff_iff]
    simp only [Bool.and_eq_true, decide_eq_true_eq]
    omega
  rw [Entry.text?, fits]
  cases decide (number < 2 ^ 63) <;> rfl

theorem mapM_cons_eq_some {α β : Type} {f : α → Option β} {first : α} {others : List α} {results : List β} :
    (first :: others).mapM f = some results ↔
      ∃ result, f first = some result ∧ ∃ later, others.mapM f = some later ∧ results = result :: later := by
  rw [List.mapM_cons]
  simp [Option.bind_eq_some_iff, @eq_comm _ results]

theorem isSome_mapM {α β : Type} {f : α → Option β} (items : List α) :
    (items.mapM f).isSome = items.all fun item => (f item).isSome := by
  induction items with
  | nil => rfl
  | cons first items ih =>
    rw [List.mapM_cons, List.all_cons, ← ih]
    cases f first <;> cases items.mapM f <;> rfl

theorem isSome_bind_pure {α β : Type} (found : Option α) (next : α → β) :
    (do return next (← found) : Option β).isSome = found.isSome := by
  cases found <;> rfl

/-- Only a value without a written form keeps sections from being written. -/
theorem isSome_write? (parts : List Section) :
    (write? parts).isSome = parts.all fun part => part.entries.all fun entry => entry.2.text?.isSome := by
  simp only [write?, Section.text?, isSome_bind_pure, isSome_mapM]

/-- The lines of the entries, each one followed by the others. -/
theorem Reads.entries {entries : List (String × Entry)} {lines : List String}
    (keys : ∀ key ∈ entries.map (·.1), IsBareKey key) (values : ∀ entry ∈ entries, entry.2.IsReadable)
    (writes : entries.mapM (fun entry => do return entry.1 ++ " = " ++ (← entry.2.text?) ++ "\n") = some lines)
    (later : Reads (steps + 1) rest found) :
    Reads (steps + 1) ((String.join lines).toList ++ rest) (entries.map assignment ++ found) := by
  induction entries generalizing lines with
  | nil =>
    cases writes
    exact later
  | cons entry entries ih =>
    rw [List.map_cons, List.forall_mem_cons] at keys
    rw [List.forall_mem_cons] at values
    obtain ⟨_, line, others, more, rfl⟩ := mapM_cons_eq_some.mp writes
    obtain ⟨text, written, same⟩ := Option.bind_eq_some_iff.mp line
    cases same
    have joined : (String.join ((entry.1 ++ " = " ++ text ++ "\n") :: others)).toList ++ rest =
        entry.1.toList ++ ' ' :: '=' :: ' ' :: (text.toList ++ '\n' :: ((String.join others).toList ++ rest)) := by
      simp
    have first := readStatement_assign keys.1
      (@Entry.readScalar_text ((String.join others).toList ++ rest) _ values.1 _ written) steps
    obtain ⟨c, key, begins, bare⟩ := keys.1.head
    rw [joined]
    rw [begins, List.cons_append] at first ⊢
    refine Reads.line (.inl bare) first ?_ (ih keys.2 values.2 more)
    simp only [List.length_append, List.length_cons]
    omega

theorem Reads.part {part : Section} (readable : part.IsReadable) {written : String}
    (writes : part.text? = some written) (later : Reads (steps + 1) rest found) :
    Reads (steps + 1) (written.toList ++ rest) (part.statements ++ found) := by
  obtain ⟨lines, lineTexts, same⟩ := Option.bind_eq_some_iff.mp writes
  cases same
  have first := @readStatement_header ((String.join lines).toList ++ rest) _ readable.names readable.headed
    readable.shallow (steps + 1)
  have header : (part.header ++ String.join lines).toList ++ rest =
      '[' :: ((".".intercalate part.path).toList ++ ']' :: '\n' :: ((String.join lines).toList ++ rest)) := by
    rw [Section.header, if_neg (by simpa using readable.headed)]
    simp
  rw [header]
  refine Reads.line (.inr rfl) first ?_ (Reads.entries readable.keys readable.values lineTexts later)
  simp only [List.length_append, List.length_cons]
  omega

theorem Reads.sections {parts : List Section} (readable : ∀ part ∈ parts, part.IsReadable) {texts : List String}
    (writes : parts.mapM Section.text? = some texts) :
    Reads (steps + 1) ("\n".intercalate texts).toList (parts.flatMap Section.statements) := by
  induction parts generalizing texts with
  | nil =>
    cases writes
    exact .nil _
  | cons part parts ih =>
    rw [List.forall_mem_cons] at readable
    obtain ⟨written, first, others, more, rfl⟩ := mapM_cons_eq_some.mp writes
    have later := ih readable.2 more
    cases others with
    | nil =>
      have alone := @Reads.part [] steps _ part readable.1 written first later
      rwa [List.append_nil] at alone
    | cons next others =>
      have joined : ("\n".intercalate (written :: next :: others)).toList =
          written.toList ++ '\n' :: ("\n".intercalate (next :: others)).toList := by
        simp [String.toList_intercalate]
      rw [joined]
      exact Reads.part readable.1 first later.newline

/-- A written document reads as a header for each section and an assignment for each entry. -/
theorem statements_of_write {parts : List Section} (readable : ∀ part ∈ parts, part.IsReadable) {text : String}
    (writes : write? parts = some text) : statements text = some (parts.flatMap Section.statements) := by
  obtain ⟨texts, written, same⟩ := Option.bind_eq_some_iff.mp writes
  cases same
  exact (Reads.sections readable written).statements

end Sections

end SlotServe.Toml
