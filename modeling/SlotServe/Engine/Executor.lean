import SlotServe.Mesh
import SlotServe.Prompt.Request
import SlotServe.Result.Buffer
import SlotServe.Settings.Engine
/-! The operations that a model executor offers. A scheduler takes a slot through its life with
them: insert makes it active, each generate steps it, free makes it free again. An operation works on
the executor's own state `σ` and keeps what it did to it also when it fails. -/
namespace SlotServe

def checkSlot (numSlots slot : Nat) : Except Fault Unit :=
  if slot < numSlots then .ok () else .error (.slotOutOfRange slot numSlots)

def checkSlotsAfter (numSlots : Nat) (seen : List Nat) : List Nat → Except Fault Unit
  | [] => .ok ()
  | slot :: rest =>
    if numSlots ≤ slot then .error (.slotOutOfRange slot numSlots)
    else if seen.contains slot then .error (.duplicateSlot slot)
    else checkSlotsAfter numSlots (slot :: seen) rest

def checkSlots (numSlots : Nat) (slots : List Nat) : Except Fault Unit :=
  checkSlotsAfter numSlots [] slots

structure Limits where
  maxConcurrentDecodes : Nat
  samplesPerSlot : Nat
  maxPrefillLength : Nat
  useChunkedPrefill : Bool
  prefillChunkSize : Nat
  deriving DecidableEq

/-- A failed insert. The decode state is returned when the executor refused before it touched it;
it is then still the one to go on with. -/
structure Rejected (S : Type) where
  fault : Fault
  returned : Option S

def Rejected.consumed {S : Type} (fault : Fault) : Rejected S := ⟨fault, none⟩

/-- `M` is the model, `P` the cache of a prefilled prompt, `S` the decode state and `V` the
vocabulary. -/
structure Executor (σ M P S V : Type) where
  limits : Limits
  mesh : Mesh
  /-- Host devices next to the mesh. -/
  hosts : Option (List Device)
  /-- Where prefilled caches are placed. -/
  placement : Sharding
  prefill : M → PrefillRequest P → EStateM Fault σ (P × ResultBuffer)
  /-- Prefill that draws several first tokens, from a seed if one is given. -/
  prefillMany : M → PrefillRequest P → Option UInt64 → Nat → EStateM Fault σ (P × ResultBuffer)
  /-- Step every active slot once. -/
  generate : M → S → Option Sampler → EStateM Fault σ (S × ResultBuffer)
  /-- Put a prefilled prompt into a slot. -/
  insert : P → S → Nat → Option RequestId → EStateM Fault σ S
  tryInsert : P → S → Nat → Option RequestId → EStateM (Rejected S) σ S
  /-- Put one prefilled prompt into several slots. -/
  insertAll : P → S → List Nat → EStateM Fault σ S
  /-- Give back what a slot holds. -/
  free : Nat → EStateM Fault σ Unit
  loadModel : EStateM Fault σ M
  initState : EStateM Fault σ S
  vocabularySource : EStateM Fault σ VocabularySource
  buildVocabulary : VocabularySource → EStateM Fault σ V

variable {σ τ M P S V : Type}

def consuming (insert : EStateM Fault σ S) : EStateM (Rejected S) σ S := fun state =>
  match insert state with
  | .ok next state => .ok next state
  | .error fault state => .error (.consumed fault) state

def zoom {ε α : Type} (get : τ → σ) (set : σ → τ → τ) (act : EStateM ε σ α) : EStateM ε τ α :=
  fun whole =>
    match act (get whole) with
    | .ok value part => .ok value (set part whole)
    | .error fault part => .error fault (set part whole)

def answer {α : Type} (result : Except Fault α) : EStateM Fault σ α := fun state =>
  match result with
  | .ok value => .ok value state
  | .error fault => .error fault state

def attempt {ε α : Type} (act : EStateM ε σ α) : EStateM Fault σ (Except ε α) := fun state =>
  match act state with
  | .ok value state => .ok (.ok value) state
  | .error fault state => .ok (.error fault) state

namespace Executor

/-- The executor with the operations that it need not offer at their defaults: a failed insert uses
the state up, nothing is freed, and the vocabulary is built by `build`. -/
def minimal (executor : Executor σ M P S V) (build : VocabularySource → Except Fault V) :
    Executor σ M P S V :=
  { executor with
    tryInsert := fun start state slot requestId =>
      consuming (executor.insert start state slot requestId)
    free := fun _ => pure ()
    buildVocabulary := fun source => answer (build source) }

end Executor

end SlotServe
