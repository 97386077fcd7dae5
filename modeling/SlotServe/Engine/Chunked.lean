import SlotServe.Engine.Executor
/-! Prefill of a long prompt in chunks. Each chunk's cache is carried into the next call, only the
last call sees the request's sampler, and only its result is kept. -/
namespace SlotServe

def chunkEnds (start chunk stop : Nat) : List Nat :=
  (List.range (Size.groups (stop - start) chunk)).map fun index =>
    min (start + (index + 1) * chunk) stop

namespace Executor

variable {σ M P S V : Type}

def prefillPieces (executor : Executor σ M P S V) (model : M) (request : PrefillRequest P)
    (tokens : Tensor) : Option (Carried P) → List Nat → EStateM Fault σ (P × ResultBuffer)
  | _, [] => throw .emptyPrompt
  | carried, stop :: rest => do
    let lead ← answer (ofTensor (tokens.narrow 0 0 stop))
    let piece : PrefillRequest P :=
      { padded := lead, trueLength := stop, carried
        sampler := if rest.isEmpty then request.sampler else none
        requestId := request.requestId }
    let (cache, buffer) ← executor.prefill model piece
    match rest with
    | [] => return (cache, buffer)
    | _ :: _ => prefillPieces executor model request tokens (some ⟨cache, lead⟩) rest

def prefillChunked (executor : Executor σ M P S V) (model : M) (request : PrefillRequest P) :
    EStateM Fault σ (P × ResultBuffer) := do
  let chunk := executor.limits.prefillChunkSize
  if !executor.limits.useChunkedPrefill || chunk = 0 || request.newTokens ≤ chunk then
    executor.prefill model request
  else
    if request.paddedLength < request.trueLength then
      throw (.tokensTooShort request.paddedLength request.trueLength)
    answer request.checkCarried
    executor.prefillPieces model request request.padded.flatten request.carried
      (chunkEnds request.carriedLength chunk request.trueLength)

end Executor

end SlotServe
