import Mathlib.Order.Bounds.Basic
import SlotServe.Proofs.Engine.PromptContext

/-! The checks of a prompt before anything is computed. They are made in a fixed order, and the first one
that fails names what is wrong and where. A prompt that passes them all can be cut behind the tokens that
its cache covers. -/
namespace SlotServe

def differences (left right : List UInt32) : Set Nat :=
  {place | place < left.length ∧ left[place]? ≠ right[place]?}

theorem firstDifference_eq_none {left right : List UInt32} (shorter : left.length ≤ right.length) :
    firstDifference left right = none ↔ left <+: right := by
  induction left generalizing right with
  | nil => simp [firstDifference]
  | cons first lefts ih =>
    cases right with
    | nil => simp at shorter
    | cons other rights =>
      rw [firstDifference, List.cons_prefix_cons]
      by_cases same : first = other
      · rw [if_pos same, Option.map_eq_none_iff, ih (by simpa using shorter)]
        exact (and_iff_right same).symm
      · simp [same]

theorem firstDifference_isLeast {left right : List UInt32} {place : Nat} (shorter : left.length ≤ right.length)
    (found : firstDifference left right = some place) : IsLeast (differences left right) place := by
  induction left generalizing right place with
  | nil => cases found
  | cons first lefts ih =>
    cases right with
    | nil => simp at shorter
    | cons other rights =>
      rw [firstDifference] at found
      split at found
      next same =>
        obtain ⟨later, located, rfl⟩ := Option.map_eq_some_iff.mp found
        obtain ⟨⟨inside, differ⟩, least⟩ := ih (by simpa using shorter) located
        refine ⟨⟨by simpa using inside, by simpa using differ⟩, ?_⟩
        rintro (_ | earlier) ⟨within, apart⟩
        · simp [same] at apart
        · exact Nat.succ_le_succ (least ⟨by simpa using within, by simpa using apart⟩)
      next differ =>
        cases found
        exact ⟨⟨Nat.succ_pos _, by simpa using differ⟩, fun _ _ => Nat.zero_le _⟩

theorem not_differs {left right : List UInt32} (leads : left <+: right) (place : Nat) :
    place ∉ differences left right := by
  obtain ⟨rest, rfl⟩ := leads
  rintro ⟨inside, differ⟩
  exact differ (List.getElem?_append_left inside).symm

theorem firstDifference_take (left right : List UInt32) :
    firstDifference left (right.take left.length) = firstDifference left right := by
  induction left generalizing right with
  | nil => simp [firstDifference]
  | cons first lefts ih =>
    cases right with
    | nil => rfl
    | cons other rights => rw [List.length_cons, List.take_succ_cons, firstDifference, firstDifference, ih]

namespace PrefillRequest

variable {P : Type} {request : PrefillRequest P} {limit : Nat} {fault : Fault}

def covered (request : PrefillRequest P) : List UInt32 := (request.carried.map Carried.tokenIds).getD []

/-- The prompt is one axis of tokens, and the tokens of the carried cache are all there. -/
structure Flat (request : PrefillRequest P) : Prop where
  vector : request.padded.shape = [request.padded.tokens.length]
  fits : ∀ carried ∈ request.carried, carried.tokens.Fits

/-- The first condition that a request does not meet, by what is reported. -/
inductive Violates (request : PrefillRequest P) (limit : Nat) : Fault → Prop
  | short (short : request.padded.tokens.length < request.trueLength) :
      Violates request limit (.tokensTooShort request.padded.tokens.length request.trueLength)
  | longer (reaches : request.trueLength ≤ request.padded.tokens.length)
      (longer : request.trueLength < request.covered.length) :
      Violates request limit (.carriedMismatch request.trueLength)
  | differs {place : Nat} (reaches : request.trueLength ≤ request.padded.tokens.length)
      (within : request.covered.length ≤ request.trueLength)
      (first : IsLeast (differences request.covered request.padded.tokens) place) :
      Violates request limit (.carriedMismatch place)
  | nothing (reaches : request.trueLength ≤ request.padded.tokens.length)
      (leads : request.covered <+: request.padded.tokens) (all : request.covered.length = request.trueLength) :
      Violates request limit .emptyPrompt
  | tooLong (reaches : request.trueLength ≤ request.padded.tokens.length)
      (leads : request.covered <+: request.padded.tokens) (within : request.covered.length < request.trueLength)
      (long : limit < request.trueLength - request.covered.length) :
      Violates request limit (.promptTooLong (request.trueLength - request.covered.length) limit)

structure Acceptable (request : PrefillRequest P) (limit : Nat) : Prop where
  reaches : request.trueLength ≤ request.padded.tokens.length
  leads : request.covered <+: request.padded.tokens
  within : request.covered.length ≤ request.trueLength
  some : 0 < request.trueLength - request.covered.length
  short : request.trueLength - request.covered.length ≤ limit

theorem checkCarried_eq (vector : request.padded.shape = [request.padded.tokens.length])
    (reaches : request.trueLength ≤ request.padded.tokens.length) :
    request.checkCarried =
      if request.trueLength < request.covered.length then .error (.carriedMismatch request.trueLength)
      else match firstDifference request.covered request.padded.tokens with
        | some place => .error (.carriedMismatch place)
        | none => .ok () := by
  unfold checkCarried covered
  cases carrying : request.carried with
  | none => rfl
  | some carried =>
    simp only [Option.map_some, Option.getD_some, Carried.checkLeads, Tensor.flatten_vector vector]
    split
    next => rfl
    next within =>
      obtain ⟨lead, cut, -, tokens⟩ := Tensor.narrow_vector vector ((Nat.le_of_not_lt within).trans reaches)
      rw [← firstDifference_take, ← tokens]
      cases found : firstDifference carried.tokenIds lead.tokens <;> simp only [cut, found]

namespace Flat

variable (flat : request.Flat)

include flat

theorem carriedLength_eq : request.carriedLength = request.covered.length := by
  unfold carriedLength covered
  cases carrying : request.carried with
  | none => rfl
  | some carried => exact ((Cells.length_toU32 _).trans (flat.fits carried carrying)).symm

theorem validate_eq (limit : Nat) :
    request.validate limit =
      if request.padded.tokens.length < request.trueLength then
        .error (.tokensTooShort request.padded.tokens.length request.trueLength)
      else if request.trueLength < request.covered.length then .error (.carriedMismatch request.trueLength)
      else match firstDifference request.covered request.padded.tokens with
        | some place => .error (.carriedMismatch place)
        | none =>
          if request.trueLength - request.covered.length = 0 then .error .emptyPrompt
          else if limit < request.trueLength - request.covered.length then
            .error (.promptTooLong (request.trueLength - request.covered.length) limit)
          else .ok () := by
  have padded : request.paddedLength = request.padded.tokens.length := by
    rw [paddedLength, flat.vector]
    rfl
  unfold validate newTokens
  rw [padded, flat.carriedLength_eq]
  by_cases short : request.padded.tokens.length < request.trueLength
  · rw [if_pos short, if_pos short]
    rfl
  · rw [if_neg short, if_neg short, checkCarried_eq flat.vector (Nat.le_of_not_lt short)]
    by_cases longer : request.trueLength < request.covered.length
    · rw [if_pos longer, if_pos longer]
      rfl
    · rw [if_neg longer, if_neg longer]
      cases firstDifference request.covered request.padded.tokens with
      | some place => rfl
      | none =>
        dsimp only [bind, Except.bind]
        split
        · rfl
        · split <;> rfl

theorem validate_ok_iff : request.validate limit = .ok () ↔ request.Acceptable limit := by
  rw [flat.validate_eq]
  constructor
  · intro passed
    split at passed
    next => cases passed
    next reaches =>
      split at passed
      next => cases passed
      next within =>
        split at passed
        next => cases passed
        next same =>
          split at passed
          next => cases passed
          next some =>
            split at passed
            next => cases passed
            next short =>
              exact ⟨by omega, (firstDifference_eq_none (by omega)).mp same, by omega, by omega, by omega⟩
  · rintro ⟨reaches, leads, within, some, short⟩
    rw [if_neg (by omega), if_neg (by omega), (firstDifference_eq_none leads.length_le).mpr leads]
    dsimp only
    rw [if_neg (by omega), if_neg (by omega)]

theorem validate_error_iff : request.validate limit = .error fault ↔ request.Violates limit fault := by
  rw [flat.validate_eq]
  -- A check that was passed is among the conditions of every later fault.
  constructor
  · intro refused
    split at refused
    next short =>
      cases refused
      exact .short short
    next reaches =>
      split at refused
      next longer =>
        cases refused
        exact .longer (by omega) longer
      next within =>
        split at refused
        next place found =>
          cases refused
          exact .differs (by omega) (by omega) (firstDifference_isLeast (by omega) found)
        next same =>
          have leads := (firstDifference_eq_none (by omega)).mp same
          split at refused
          next none =>
            cases refused
            exact .nothing (by omega) leads (by omega)
          next some =>
            split at refused
            next long =>
              cases refused
              exact .tooLong (by omega) leads (by omega) long
            next => cases refused
  · intro violates
    cases violates with
    | short short => rw [if_pos short]
    | longer reaches longer => rw [if_neg (by omega), if_pos longer]
    | @differs place reaches within first =>
      rw [if_neg (by omega), if_neg (by omega)]
      cases found : firstDifference request.covered request.padded.tokens with
      | some least =>
        rw [(firstDifference_isLeast (Nat.le_trans within reaches) found).unique first]
      | none =>
        have leads := (firstDifference_eq_none (Nat.le_trans within reaches)).mp found
        exact absurd first.1 (not_differs leads place)
    | nothing reaches leads all =>
      rw [if_neg (by omega), if_neg (by omega), (firstDifference_eq_none leads.length_le).mpr leads]
      dsimp only
      rw [if_pos (by omega)]
    | tooLong reaches leads within long =>
      rw [if_neg (by omega), if_neg (by omega), (firstDifference_eq_none leads.length_le).mpr leads]
      dsimp only
      rw [if_neg (by omega), if_pos long]

theorem coherent (acceptable : request.Acceptable limit) : request.Coherent where
  vector := flat.vector
  reaches := acceptable.reaches
  fits := flat.fits
  leads carried carrying := by
    have leads := acceptable.leads
    rwa [covered, Option.mem_def.mp carrying] at leads
  shorter := by
    have some := acceptable.some
    rw [flat.carriedLength_eq]
    omega

end Flat

/-- A request is accepted exactly if it meets every condition, and otherwise refused for the first one
that it does not meet. The context of an accepted request is that of its cache and then the tokens that
the cache does not cover. -/
theorem validate_names_first_violation :
    (∀ {P : Type} {request : PrefillRequest P} (limit : Nat), request.Flat →
      (request.validate limit = .ok () ↔ request.Acceptable limit) ∧
        ∀ fault, request.validate limit = .error fault ↔ request.Violates limit fault) ∧
    ∀ {request : PrefillRequest Prefilled} {limit : Nat}, request.Flat → request.validate limit = .ok () →
      contextOf request = .ok ((request.carried.map (·.cache.context)).getD [] ++
        (request.padded.tokens.take request.trueLength).drop request.covered.length) := by
  refine ⟨fun limit flat => ⟨flat.validate_ok_iff, fun fault => flat.validate_error_iff⟩, ?_⟩
  intro request limit flat passed
  rw [(flat.coherent (flat.validate_ok_iff.mp passed)).contextOf_eq, ← flat.carriedLength_eq]
  rfl

/-- A prompt of four tokens and two of padding, over a cache that stands for the first two of them and
was computed behind another token. -/
def resumed : PrefillRequest Prefilled :=
  { padded := .ofTokens [1, 2, 3, 4, 0, 0]
    trueLength := 4
    carried := some ⟨⟨[7, 1, 2], [3], [], none⟩, .ofTokens [1, 2]⟩ }

theorem resumed_names_first_violation :
    resumed.Flat ∧ (resumed.validate 2 = .ok () ∧ contextOf resumed = .ok [7, 1, 2, 3, 4]) ∧
      resumed.Violates 1 (.promptTooLong 2 1) := by
  have flat : resumed.Flat := ⟨rfl, by rintro _ ⟨⟩; rfl⟩
  have fits : resumed.Acceptable 2 := by constructor <;> decide
  have passed := (validate_names_first_violation.1 2 flat).1.mpr fits
  have refused : resumed.validate 1 = .error (.promptTooLong 2 1) := by decide
  exact ⟨flat, ⟨passed, validate_names_first_violation.2 flat passed⟩,
    ((validate_names_first_violation.1 1 flat).2 _).mp refused⟩

end PrefillRequest

end SlotServe
