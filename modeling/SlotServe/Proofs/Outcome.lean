import SlotServe.Engine.Executor

/-! Computations that keep what they did to their state also when they fail. A success of a chain is
a success of each link, and a property that every link keeps is kept by the chain, however it ends. -/
namespace SlotServe

variable {ε σ τ α β : Type}

def left : EStateM.Result ε σ α → σ
  | .ok _ state => state
  | .error _ state => state

theorem bind_ok {act : EStateM ε σ α} (next : α → EStateM ε σ β) {state middle : σ} {value : α}
    (ok : act state = .ok value middle) : (act >>= next) state = next value middle := by
  simp only [bind, EStateM.bind, ok]

theorem bind_error {act : EStateM ε σ α} (next : α → EStateM ε σ β) {state after : σ} {fault : ε}
    (failed : act state = .error fault after) : (act >>= next) state = .error fault after := by
  simp only [bind, EStateM.bind, failed]

theorem get_bind (next : σ → EStateM ε σ β) (state : σ) : (get >>= next) state = next state state :=
  rfl

theorem bind_links {act : EStateM ε σ α} {next : α → EStateM ε σ β} {state after : σ} {result : β}
    (ok : (act >>= next) state = .ok result after) :
    ∃ value middle, act state = .ok value middle ∧ next value middle = .ok result after := by
  cases first : act state with
  | ok value middle => exact ⟨value, middle, rfl, (bind_ok next first).symm.trans ok⟩
  | error fault middle =>
    rw [bind_error next first] at ok
    cases ok

theorem bind_faults {act : EStateM ε σ α} {next : α → EStateM ε σ β} {state after : σ} {fault : ε}
    (failed : (act >>= next) state = .error fault after) :
    act state = .error fault after ∨
      ∃ value middle, act state = .ok value middle ∧ next value middle = .error fault after := by
  cases first : act state with
  | ok value middle => exact .inr ⟨value, middle, rfl, (bind_ok next first).symm.trans failed⟩
  | error cause middle =>
    rw [bind_error next first] at failed
    cases failed
    exact .inl rfl

theorem fails_of_not_ok {ended : EStateM.Result ε σ α} (never : ∀ value state, ended ≠ .ok value state) :
    ∃ fault state, ended = .error fault state := by
  cases ended with
  | ok value state => exact absurd rfl (never value state)
  | error fault state => exact ⟨fault, state, rfl⟩

theorem except_links {first : Except ε α} {next : α → Except ε β} {result : β}
    (ok : (first >>= next) = .ok result) : ∃ value, first = .ok value ∧ next value = .ok result := by
  cases first with
  | error fault => cases ok
  | ok value => exact ⟨value, rfl, ok⟩

theorem answer_success {result : Except Fault α} {value : α} {state after : σ}
    (ok : answer result state = .ok value after) : result = .ok value ∧ after = state := by
  cases result with
  | error fault => cases ok
  | ok found =>
    cases ok
    exact ⟨rfl, rfl⟩

theorem answer_fault {result : Except Fault α} {fault : Fault} {state after : σ}
    (failed : answer result state = .error fault after) : result = .error fault ∧ after = state := by
  cases result with
  | error cause =>
    cases failed
    exact ⟨rfl, rfl⟩
  | ok value => cases failed

theorem zoom_success {part : τ → σ} {put : σ → τ → τ} {act : EStateM ε σ α} {whole after : τ} {value : α}
    (ok : zoom part put act whole = .ok value after) :
    ∃ changed, act (part whole) = .ok value changed ∧ after = put changed whole := by
  unfold zoom at ok
  cases ended : act (part whole) with
  | error fault changed =>
    rw [ended] at ok
    cases ok
  | ok found changed =>
    rw [ended] at ok
    cases ok
    exact ⟨changed, rfl, rfl⟩

theorem zoom_fault {part : τ → σ} {put : σ → τ → τ} {act : EStateM ε σ α} {whole after : τ} {fault : ε}
    (failed : zoom part put act whole = .error fault after) :
    ∃ changed, act (part whole) = .error fault changed ∧ after = put changed whole := by
  unfold zoom at failed
  cases ended : act (part whole) with
  | ok found changed =>
    rw [ended] at failed
    cases failed
  | error cause changed =>
    rw [ended] at failed
    cases failed
    exact ⟨changed, rfl, rfl⟩

theorem left_zoom (part : τ → σ) (put : σ → τ → τ) (act : EStateM ε σ α) (whole : τ) :
    left (zoom part put act whole) = put (left (act (part whole))) whole := by
  unfold zoom
  cases act (part whole) <;> rfl

theorem zoom_answer {part : τ → σ} {put : σ → τ → τ} (unmoved : ∀ whole, put (part whole) whole = whole)
    (result : Except Fault α) : zoom part put (answer result) = answer result := by
  funext whole
  unfold zoom answer
  cases result <;> exact congrArg _ (unmoved whole)

/-- Computations without state can be answered one after the other. -/
theorem answer_bind (first : Except Fault α) (next : α → Except Fault β) :
    (answer (first >>= next) : EStateM Fault σ β) = answer first >>= fun value => answer (next value) := by
  cases first <;> rfl

theorem ofTensor_success {result : Except TensorFault α} {value : α}
    (ok : ofTensor result = .ok value) : result = .ok value := by
  cases result with
  | error fault => cases ok
  | ok found => exact congrArg Except.ok (Except.ok.inj ok)

theorem orDefect_success {cause : Defect} {result : Option α} {value : α}
    (ok : orDefect cause result = .ok value) : result = some value := by
  cases result with
  | none => cases ok
  | some found => exact congrArg some (Except.ok.inj ok)

def Keeps (Holds : σ → Prop) (act : EStateM ε σ α) : Prop :=
  ∀ state, Holds state → Holds (left (act state))

variable {Holds : σ → Prop}

theorem keeps_pure (value : α) : Keeps Holds (pure value : EStateM ε σ α) :=
  fun _ holds => holds

theorem keeps_throw (fault : ε) : Keeps Holds (throw fault : EStateM ε σ α) :=
  fun _ holds => holds

theorem keeps_answer (result : Except Fault α) : Keeps Holds (answer result) := by
  intro state holds
  cases result <;> exact holds

/-- What holds however the first link ends, and is kept by what follows its success, holds in the end. -/
theorem left_bind_ok {act : EStateM ε σ α} {next : α → EStateM ε σ β} {state : σ} (first : Holds (left (act state)))
    (rest : ∀ value middle, act state = .ok value middle → Holds middle → Holds (left (next value middle))) :
    Holds (left ((act >>= next) state)) := by
  cases ended : act state with
  | ok value middle =>
    rw [bind_ok next ended]
    rw [ended] at first
    exact rest value middle ended first
  | error fault middle =>
    rw [bind_error next ended]
    rwa [ended] at first

/-- What holds however the first link ends, and is kept by the rest, holds in the end. -/
theorem left_bind {act : EStateM ε σ α} {next : α → EStateM ε σ β} {state : σ}
    (first : Holds (left (act state))) (rest : ∀ value, Keeps Holds (next value)) :
    Holds (left ((act >>= next) state)) :=
  left_bind_ok first fun value middle _ holds => rest value middle holds

theorem keeps_bind {act : EStateM ε σ α} {next : α → EStateM ε σ β} (first : Keeps Holds act)
    (rest : ∀ value, Keeps Holds (next value)) : Keeps Holds (act >>= next) :=
  fun state holds => left_bind (first state holds) rest

def outcomeOf : EStateM.Result ε σ α → Except ε α
  | .ok value _ => .ok value
  | .error fault _ => .error fault

theorem attempt_eq (act : EStateM ε σ α) (state : σ) :
    (attempt act : EStateM Fault σ (Except ε α)) state = .ok (outcomeOf (act state)) (left (act state)) := by
  unfold attempt
  cases act state <;> rfl

theorem attempt_ends (act : EStateM ε σ α) (state : σ) :
    ∃ outcome, (attempt act : EStateM Fault σ (Except ε α)) state = .ok outcome (left (act state)) :=
  ⟨_, attempt_eq act state⟩

theorem outcomeOf_answer (result : Except Fault α) (state : σ) : outcomeOf (answer result state) = result := by
  cases result <;> rfl

/-- Chains with the same first link end alike if what follows its success does. -/
theorem outcomeOf_bind_congr {act : EStateM ε σ α} {next other : α → EStateM ε σ β} {state : σ}
    (same : ∀ value middle, act state = .ok value middle → outcomeOf (next value middle) = outcomeOf (other value middle)) :
    outcomeOf ((act >>= next) state) = outcomeOf ((act >>= other) state) := by
  cases ended : act state with
  | ok value middle =>
    rw [bind_ok next ended, bind_ok other ended]
    exact same value middle ended
  | error fault middle => rw [bind_error next ended, bind_error other ended]

theorem outcomeOf_ok {ended : EStateM.Result ε σ α} {value : α} :
    outcomeOf ended = .ok value ↔ ∃ after, ended = .ok value after := by
  cases ended with
  | ok found state => simp [outcomeOf]
  | error fault state => simp [outcomeOf]

theorem outcomeOf_error {ended : EStateM.Result ε σ α} {fault : ε} :
    outcomeOf ended = .error fault ↔ ∃ after, ended = .error fault after := by
  cases ended with
  | ok found state => simp [outcomeOf]
  | error cause state => simp [outcomeOf]

def endOf (outcome : Except ε α) (state : σ) : EStateM.Result ε σ α :=
  match outcome with
  | .ok value => .ok value state
  | .error fault => .error fault state

theorem attempt_success {act : EStateM ε σ α} {state after : σ} {outcome : Except ε α}
    (ok : (attempt act : EStateM Fault σ (Except ε α)) state = .ok outcome after) :
    act state = endOf outcome after := by
  unfold attempt at ok
  split at ok
  next value _ done =>
    cases ok
    exact done
  next fault _ done =>
    cases ok
    exact done

theorem keeps_attempt {act : EStateM ε σ α} (kept : Keeps Holds act) :
    Keeps Holds (attempt act : EStateM Fault σ (Except ε α)) := by
  intro state holds
  obtain ⟨outcome, ended⟩ := attempt_ends act state
  rw [ended]
  exact kept state holds

def Ends (Holds : σ → Prop) (Cause : ε → Prop) : EStateM.Result ε σ α → Prop
  | .ok _ state => Holds state
  | .error fault _ => Cause fault

theorem Ends.imp {Holds More : σ → Prop} {Cause Other : ε → Prop} {ended : EStateM.Result ε σ α}
    (ends : Ends Holds Cause ended)
    (more : ∀ {state}, Holds state → More state) (other : ∀ {fault}, Cause fault → Other fault) :
    Ends More Other ended := by
  cases ended with
  | ok value state => exact more ends
  | error fault state => exact other ends

theorem ends_bind {Cause : ε → Prop} {act : EStateM ε σ α} {next : α → EStateM ε σ β} {state : σ}
    (first : Ends Holds Cause (act state))
    (rest : ∀ value middle, act state = .ok value middle → Holds middle → Ends Holds Cause (next value middle)) :
    Ends Holds Cause ((act >>= next) state) := by
  cases ended : act state with
  | ok value middle =>
    rw [ended] at first
    rw [bind_ok next ended]
    exact rest value middle ended first
  | error fault middle =>
    rw [ended] at first
    rw [bind_error next ended]
    exact first

theorem ends_of_keeps {Cause : ε → Prop} {act : EStateM ε σ α} {state : σ} (kept : Keeps Holds act)
    (holds : Holds state) (caused : ∀ fault after, act state = .error fault after → Cause fault) :
    Ends Holds Cause (act state) := by
  have later := kept state holds
  cases ended : act state with
  | ok value after => rwa [ended] at later
  | error fault after => exact caused fault after ended

inductive SameEnd (Related : σ → τ → Prop) : EStateM.Result ε σ α → EStateM.Result ε τ α → Prop
  | ok (value : α) {state : σ} {twin : τ} (related : Related state twin) :
      SameEnd Related (.ok value state) (.ok value twin)
  | error (fault : ε) {state : σ} {twin : τ} (related : Related state twin) :
      SameEnd Related (.error fault state) (.error fault twin)

/-- From related states both computations come to the same end. -/
def Mirrors (Related : σ → τ → Prop) (act : EStateM ε σ α) (other : EStateM ε τ α) : Prop :=
  ∀ state twin, Related state twin → SameEnd Related (act state) (other twin)

variable {Related : σ → τ → Prop}

theorem SameEnd.outcomes {first : EStateM.Result ε σ α} {second : EStateM.Result ε τ α}
    (same : SameEnd Related first second) : outcomeOf first = outcomeOf second := by
  cases same <;> rfl

theorem SameEnd.leaves {first : EStateM.Result ε σ α} {second : EStateM.Result ε τ α}
    (same : SameEnd Related first second) : Related (left first) (left second) := by
  cases same <;> assumption

/-- To keep a property is to mirror oneself on the states that have it. -/
theorem keeps_iff_mirrors {act : EStateM ε σ α} :
    Keeps Holds act ↔ Mirrors (fun state twin => state = twin ∧ Holds state) act act := by
  constructor
  · rintro keeps state _ ⟨rfl, holds⟩
    have after := keeps state holds
    cases ended : act state with
    | ok value middle =>
      rw [ended] at after
      exact .ok value ⟨rfl, after⟩
    | error fault middle =>
      rw [ended] at after
      exact .error fault ⟨rfl, after⟩
  · intro mirrors state holds
    exact (mirrors state state ⟨rfl, holds⟩).leaves.2

theorem mirrors_pure (value : α) :
    Mirrors Related (pure value : EStateM ε σ α) (pure value : EStateM ε τ α) :=
  fun _ _ related => .ok value related

theorem mirrors_throw (fault : ε) :
    Mirrors Related (throw fault : EStateM ε σ α) (throw fault : EStateM ε τ α) :=
  fun _ _ related => .error fault related

theorem mirrors_answer (result : Except Fault α) :
    Mirrors Related (answer result : EStateM Fault σ α) (answer result : EStateM Fault τ α) := by
  intro state twin related
  cases result with
  | ok value => exact .ok value related
  | error fault => exact .error fault related

theorem mirrors_bind {act : EStateM ε σ α} {other : EStateM ε τ α} {next : α → EStateM ε σ β}
    {otherNext : α → EStateM ε τ β} (first : Mirrors Related act other)
    (rest : ∀ value, Mirrors Related (next value) (otherNext value)) :
    Mirrors Related (act >>= next) (other >>= otherNext) := by
  intro state twin related
  have between := first state twin related
  simp only [bind, EStateM.bind]
  cases ended : act state with
  | ok value middle =>
    rw [ended] at between
    generalize other twin = otherEnd at between
    cases between with
    | ok _ related => exact rest value _ _ related
  | error fault middle =>
    rw [ended] at between
    generalize other twin = otherEnd at between
    cases between with
    | error _ related => exact .error fault related

theorem mirrors_zoom {ρ υ : Type} {Whole : ρ → υ → Prop} {part : ρ → σ} {put : σ → ρ → ρ} {partToo : υ → τ}
    {putToo : τ → υ → υ} (parts : ∀ whole twin, Whole whole twin → Related (part whole) (partToo twin))
    (puts : ∀ whole twin state other, Whole whole twin → Related state other →
      Whole (put state whole) (putToo other twin))
    {act : EStateM ε σ α} {other : EStateM ε τ α} (same : Mirrors Related act other) :
    Mirrors Whole (zoom part put act) (zoom partToo putToo other) := by
  intro whole twin related
  have ended := same _ _ (parts whole twin related)
  unfold zoom
  generalize act (part whole) = first at ended
  generalize other (partToo twin) = second at ended
  cases ended with
  | ok value after => exact .ok value (puts whole twin _ _ related after)
  | error fault after => exact .error fault (puts whole twin _ _ related after)

end SlotServe
