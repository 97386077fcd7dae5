import SlotServe.Engine.Executor
import SlotServe.Json.Value
/-! An executor that keeps a log of the calls made to it and passes them on. Operations can be
marked as missing: a call to one is logged and then refused, and does not reach the executor. A
logged call is written as an array that starts with the name of its operation. -/
namespace SlotServe

inductive Operation
  | prefill | prefillMany | generate | insert | insertAll | free | loadModel | initState
  | buildVocabulary
  deriving DecidableEq

def Operation.name : Operation → String
  | .prefill => "prefill"
  | .prefillMany => "prefill_multisampling"
  | .generate => "generate"
  | .insert => "insert"
  | .insertAll => "bulk_insert"
  | .free => "free_resource"
  | .loadModel => "load_params"
  | .initState => "init_decode_state"
  | .buildVocabulary => "build_tokenizer"

inductive Call
  | prefill (paddedLength trueLength : Nat) (carriedLength : Option Nat) (hasSampler : Bool)
      (requestId : Option RequestId)
  | prefillMany (paddedLength trueLength : Nat) (hasSampler hasSeed : Bool) (numSamples : Nat)
  | generate (hasSampler : Bool)
  | insert (slot : Nat) (requestId : Option RequestId)
  | insertAll (slots : List Nat)
  | free (slot : Nat)
  | loadModel
  | initState
  | vocabularySource
  | buildVocabulary (path : String)
  deriving DecidableEq

def idJson (id : Option RequestId) : Json := (id.map fun id => Json.string id.text).getD .null

def Call.json : Call → Json
  | .prefill padded length carried sampler id => .array [.string "prefill", .ofNat padded,
      .ofNat length, (carried.map Json.ofNat).getD .null, .bool sampler, idJson id]
  | .prefillMany padded length sampler seed count => .array [.string "prefill_multisampling",
      .ofNat padded, .ofNat length, .bool sampler, .bool seed, .ofNat count]
  | .generate sampler => .array [.string "generate", .bool sampler]
  | .insert slot id => .array [.string "insert", .ofNat slot, idJson id]
  | .insertAll slots => .array [.string "bulk_insert", .array (slots.map Json.ofNat)]
  | .free slot => .array [.string "free_resource", .ofNat slot]
  | .loadModel => .array [.string "load_params"]
  | .initState => .array [.string "init_decode_state"]
  | .vocabularySource => .array [.string "get_tokenizer"]
  | .buildVocabulary path => .array [.string "build_tokenizer", .string path]

structure Logged (σ : Type) where
  /-- The calls, the last one in front. -/
  log : List Call
  inner : σ

namespace Logged

variable {σ ε α : Type}

def calls (logged : Logged σ) : List Call := logged.log.reverse

def onInner (act : EStateM ε σ α) : EStateM ε (Logged σ) α :=
  zoom Logged.inner (fun inner logged => { logged with inner }) act

def record (call : Call) : EStateM ε (Logged σ) Unit :=
  modify fun logged => { logged with log := call :: logged.log }

def forward (missing : List Operation) (operation : Operation) (call : Call) (refuse : Fault → ε)
    (act : EStateM ε σ α) : EStateM ε (Logged σ) α := do
  record call
  if missing.contains operation then throw (refuse (.unimplemented operation.name))
  else onInner act

end Logged

namespace Executor

variable {σ M P S V : Type}

open Logged in
def logged (executor : Executor σ M P S V) (missing : List Operation) :
    Executor (Logged σ) M P S V :=
  { limits := executor.limits
    mesh := executor.mesh
    hosts := executor.hosts
    placement := executor.placement
    prefill := fun model request =>
      forward missing .prefill
        (.prefill request.paddedLength request.trueLength (request.carried.map Carried.length)
          request.sampler.isSome request.requestId)
        id (executor.prefill model request)
    prefillMany := fun model request seed count =>
      forward missing .prefillMany
        (.prefillMany request.paddedLength request.trueLength request.sampler.isSome seed.isSome
          count)
        id (executor.prefillMany model request seed count)
    generate := fun model state sampler =>
      forward missing .generate (.generate sampler.isSome) id
        (executor.generate model state sampler)
    insert := fun start state slot requestId =>
      forward missing .insert (.insert slot requestId) id
        (executor.insert start state slot requestId)
    tryInsert := fun start state slot requestId =>
      forward missing .insert (.insert slot requestId) (fun fault => ⟨fault, some state⟩)
        (executor.tryInsert start state slot requestId)
    insertAll := fun start state slots =>
      forward missing .insertAll (.insertAll slots) id (executor.insertAll start state slots)
    free := fun slot => forward missing .free (.free slot) id (executor.free slot)
    loadModel := forward missing .loadModel .loadModel id executor.loadModel
    initState := forward missing .initState .initState id executor.initState
    vocabularySource := do
      record .vocabularySource
      onInner executor.vocabularySource
    buildVocabulary := fun source =>
      forward missing .buildVocabulary (.buildVocabulary source.path) id
        (executor.buildVocabulary source) }

end Executor

end SlotServe
