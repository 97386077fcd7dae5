import SlotServe.Engine.Front
import SlotServe.Engine.Logged
import SlotServe.Proofs.Outcome

/-! A front over a log over an executor, seen as one machine. Whatever is asked of the stack is answered as
the executor itself answers it, or refused by name where the operation is missing, and nothing but the log
tells that the call came through the stack. -/
namespace SlotServe

variable {σ ε ρ M P S V : Type}

inductive ExecutorCall (M P S : Type)
  | limits
  | mesh
  | hosts
  | placement
  | prefill (model : M) (request : PrefillRequest P)
  | prefillMany (model : M) (request : PrefillRequest P) (seed : Option UInt64) (count : Nat)
  | generate (model : M) (state : S) (sampler : Option Sampler)
  | insert (start : P) (state : S) (slot : Nat) (requestId : Option RequestId)
  | tryInsert (start : P) (state : S) (slot : Nat) (requestId : Option RequestId)
  | insertAll (start : P) (state : S) (slots : List Nat)
  | free (slot : Nat)
  | loadModel
  | initState
  | vocabularySource
  | buildVocabulary (source : VocabularySource)

inductive ExecutorReply (M P S V : Type)
  | limits (limits : Limits)
  | mesh (mesh : Mesh)
  | hosts (hosts : Option (List Device))
  | placement (placement : Sharding)
  | prefilled (start : P) (result : ResultBuffer)
  | stepped (state : S) (result : ResultBuffer)
  | state (state : S)
  | freed
  | model (model : M)
  | source (source : VocabularySource)
  | vocabulary (vocabulary : V)

namespace ExecutorCall

/-- The operation that the call is an instance of, if it is one that can be missing. Trying to insert counts
as inserting. Reading a capacity, a placement or the vocabulary source cannot fail. -/
def operation? : ExecutorCall M P S → Option Operation
  | .prefill _ _ => some .prefill
  | .prefillMany _ _ _ _ => some .prefillMany
  | .generate _ _ _ => some .generate
  | .insert _ _ _ _ | .tryInsert _ _ _ _ => some .insert
  | .insertAll _ _ _ => some .insertAll
  | .free _ => some .free
  | .loadModel => some .loadModel
  | .initState => some .initState
  | .buildVocabulary _ => some .buildVocabulary
  | .limits | .mesh | .hosts | .placement | .vocabularySource => none

def entry? : ExecutorCall M P S → Option Call
  | .prefill _ request => some (.prefill request.paddedLength request.trueLength
      (request.carried.map Carried.length) request.sampler.isSome request.requestId)
  | .prefillMany _ request seed count => some (.prefillMany request.paddedLength request.trueLength
      request.sampler.isSome seed.isSome count)
  | .generate _ _ sampler => some (.generate sampler.isSome)
  | .insert _ _ slot requestId | .tryInsert _ _ slot requestId => some (.insert slot requestId)
  | .insertAll _ _ slots => some (.insertAll slots)
  | .free slot => some (.free slot)
  | .loadModel => some .loadModel
  | .initState => some .initState
  | .vocabularySource => some .vocabularySource
  | .buildVocabulary source => some (.buildVocabulary source.path)
  | .limits | .mesh | .hosts | .placement => none

def returned? : ExecutorCall M P S → Option S
  | .tryInsert _ state _ _ => some state
  | _ => none

end ExecutorCall

def replying {α : Type} (reply : α → ρ) (act : EStateM Fault σ α) : EStateM (Rejected S) σ ρ := fun state =>
  match act state with
  | .ok value state => .ok (reply value) state
  | .error fault state => .error (.consumed fault) state

namespace Executor

def perform (executor : Executor σ M P S V) :
    ExecutorCall M P S → EStateM (Rejected S) σ (ExecutorReply M P S V)
  | .limits => pure (.limits executor.limits)
  | .mesh => pure (.mesh executor.mesh)
  | .hosts => pure (.hosts executor.hosts)
  | .placement => pure (.placement executor.placement)
  | .prefill model request => replying (fun out => .prefilled out.1 out.2) (executor.prefill model request)
  | .prefillMany model request seed count =>
    replying (fun out => .prefilled out.1 out.2) (executor.prefillMany model request seed count)
  | .generate model state sampler =>
    replying (fun out => .stepped out.1 out.2) (executor.generate model state sampler)
  | .insert start state slot requestId => replying .state (executor.insert start state slot requestId)
  | .tryInsert start state slot requestId => .state <$> executor.tryInsert start state slot requestId
  | .insertAll start state slots => replying .state (executor.insertAll start state slots)
  | .free slot => replying (fun _ => .freed) (executor.free slot)
  | .loadModel => replying .model executor.loadModel
  | .initState => replying .state executor.initState
  | .vocabularySource => replying .source executor.vocabularySource
  | .buildVocabulary source => replying .vocabulary (executor.buildVocabulary source)

/-- The executor without its missing operations. A call to one fails with its name and does not touch the
executor. -/
def performBut (executor : Executor σ M P S V) (missing : List Operation) (call : ExecutorCall M P S) :
    EStateM (Rejected S) σ (ExecutorReply M P S V) :=
  match call.operation? with
  | none => executor.perform call
  | some operation =>
    if operation ∈ missing then throw ⟨.unimplemented operation.name, call.returned?⟩
    else executor.perform call

end Executor

def answerOf {α : Type} : EStateM.Result ε σ α → Except ε α
  | .ok value _ => .ok value
  | .error fault _ => .error fault

def serveCalls {κ : Type} (perform : κ → EStateM ε σ ρ) : List κ → σ → List (Except ε ρ) × σ
  | [], state => ([], state)
  | call :: rest, state =>
    let ended := perform call state
    let later := serveCalls perform rest (left ended)
    (answerOf ended :: later.1, later.2)

def Front.after (entries : List Call) (inner : σ) (front : Front (Logged σ)) : Front (Logged σ) :=
  { front with inner := { log := entries.reverse ++ front.inner.log, inner } }

theorem calls_after (entries : List Call) (inner : σ) (front : Front (Logged σ)) :
    (front.after entries inner).inner.calls = front.inner.calls ++ entries := by
  simp [Front.after, Logged.calls]

def through {α : Type} (entries : List Call) (act : EStateM ε σ α) : EStateM ε (Front (Logged σ)) α :=
  zoom (fun front => front.inner.inner) (Front.after entries) act

section

variable {α : Type} (entries : List Call)

theorem replying_through (reply : α → ρ) (act : EStateM Fault σ α) :
    (replying reply (through entries act) : EStateM (Rejected S) (Front (Logged σ)) ρ) =
      through entries (replying reply act) := by
  funext front
  simp only [replying, through, zoom]
  cases act front.inner.inner <;> rfl

theorem map_through (reply : α → ρ) (act : EStateM ε σ α) :
    reply <$> through entries act = through entries (reply <$> act) := by
  funext front
  simp only [through, zoom, Functor.map, EStateM.map]
  cases act front.inner.inner <;> rfl

theorem left_through (act : EStateM ε σ α) (front : Front (Logged σ)) :
    left (through entries act front) = front.after entries (left (act front.inner.inner)) := by
  unfold through zoom
  cases act front.inner.inner <;> rfl

theorem answerOf_through (act : EStateM ε σ α) (front : Front (Logged σ)) :
    answerOf (through entries act front) = answerOf (act front.inner.inner) := by
  unfold through zoom
  cases act front.inner.inner <;> rfl

variable (missing : List Operation) (operation : Operation) (call : Call)

theorem onInner_record (act : EStateM ε σ α) :
    Front.onInner (do Logged.record call; Logged.onInner act) = through [call] act := by
  funext front
  have logged : (Logged.record call >>= fun _ => Logged.onInner act) front.inner =
      Logged.onInner act { front.inner with log := call :: front.inner.log } := rfl
  unfold Front.onInner through zoom
  rw [logged]
  unfold Logged.onInner zoom
  cases act front.inner.inner <;> rfl

theorem onInner_forward (refuse : Fault → ε) (act : EStateM ε σ α) :
    Front.onInner (Logged.forward missing operation call refuse act) =
      through [call] (if operation ∈ missing then throw (refuse (.unimplemented operation.name)) else act) := by
  unfold Logged.forward
  by_cases absent : operation ∈ missing
  · simp only [List.contains_iff_mem, absent, if_true]
    rfl
  · simp only [List.contains_iff_mem, absent, if_false]
    exact onInner_record call act

theorem replying_forward (reply : α → ρ) (act : EStateM Fault σ α) :
    (replying reply (Front.onInner (Logged.forward missing operation call id act)) :
        EStateM (Rejected S) (Front (Logged σ)) ρ) =
      through [call] (if operation ∈ missing then throw ⟨.unimplemented operation.name, none⟩
        else replying reply act) := by
  rw [onInner_forward, replying_through]
  split <;> rfl

theorem map_forward (reply : α → ρ) (refuse : Fault → ε) (act : EStateM ε σ α) :
    reply <$> Front.onInner (Logged.forward missing operation call refuse act) =
      through [call] (if operation ∈ missing then throw (refuse (.unimplemented operation.name))
        else reply <$> act) := by
  rw [onInner_forward, map_through]
  split <;> rfl

end

namespace Executor

variable (executor : Executor σ M P S V) (missing : List Operation)

/-- A call on the stack is the same call on the executor without the missing operations, and an entry in
the log. -/
theorem perform_stack (call : ExecutorCall M P S) :
    (executor.logged missing).front.perform call =
      through call.entry?.toList (executor.performBut missing call) := by
  cases call with
  | limits | mesh | hosts | placement => rfl
  | prefill | prefillMany | generate | insert | insertAll | free | loadModel | initState | buildVocabulary =>
    exact replying_forward missing _ _ _ _
  | tryInsert start state slot requestId =>
    exact map_forward missing .insert (.insert slot requestId) ExecutorReply.state (fun fault => ⟨fault, some state⟩)
      (executor.tryInsert start state slot requestId)
  | vocabularySource =>
    exact (congrArg (replying ExecutorReply.source) (onInner_record _ _)).trans (replying_through _ _ _)

/-- The stack simulates the executor. However many calls are made to it, and with whatever arguments, they
are answered as by the executor without the missing operations, which is left in the same state. The log
holds an entry for each call that makes one, in order, and the front has kept its own state. -/
theorem stack_simulates (calls : List (ExecutorCall M P S)) (front : Front (Logged σ)) :
    ∃ last : Front (Logged σ),
      serveCalls (executor.logged missing).front.perform calls front =
        ((serveCalls (executor.performBut missing) calls front.inner.inner).1, last) ∧
      last.inner.inner = (serveCalls (executor.performBut missing) calls front.inner.inner).2 ∧
      last.inner.calls = front.inner.calls ++ calls.filterMap ExecutorCall.entry? ∧
      last.warm = front.warm ∧ last.buckets = front.buckets := by
  induction calls generalizing front with
  | nil => exact ⟨front, rfl, rfl, (List.append_nil _).symm, rfl, rfl⟩
  | cons call rest ih =>
    -- What the first call leaves behind is a stack again, with its entry at the end of the log.
    let ended := executor.performBut missing call front.inner.inner
    obtain ⟨last, served, inner, logged, warm, buckets⟩ := ih (front.after call.entry?.toList (left ended))
    refine ⟨last, ?_, inner, ?_, warm, buckets⟩
    · simp only [serveCalls, executor.perform_stack missing call, left_through, answerOf_through]
      rw [served]
      rfl
    · rw [logged, calls_after, List.append_assoc]
      cases made : call.entry? <;> simp [made]

end Executor

end SlotServe
