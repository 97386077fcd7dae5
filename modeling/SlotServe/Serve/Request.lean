import SlotServe.Random.Words
import SlotServe.Prompt.Request
import SlotServe.Settings.Run
import SlotServe.Fault
import SlotServe.Size
/-! Requests to the scheduler, and synthetic ones of random tokens. -/
namespace SlotServe

open SlotServe.Random (WordStream)

structure Request where
  id : RequestId
  prompt : List UInt32
  /-- Tokens to emit, the one from prefill included. -/
  maxNewTokens : Nat
  deriving DecidableEq

def randomId (seed : UInt64) (number : Nat) : RequestId :=
  match Random.blockWords (WordStream.ofSeed seed).key (.ofNat number) with
  | first :: second :: third :: fourth :: _ =>
    .ofRandom (first.toNat * 0x100000000 + second.toNat) (third.toNat * 0x100000000 + fourth.toNat)
  | _ => ⟨number⟩

def randomPrompt (top : Nat) : Nat → WordStream → Except Fault (List UInt32 × WordStream)
  | 0, stream => .ok ([], stream)
  | length + 1, stream =>
    if top ≤ 1 then .error (.defect .emptyRange)
    else do
      -- Token 0 is never drawn.
      let (offset, stream) := stream.nextBelow (top - 1) WordStream.maxTries
      let (rest, stream) ← randomPrompt top length stream
      return (UInt32.ofNat (1 + offset) :: rest, stream)

def randomRequests (workload : WorkloadSettings) (top : Nat) :
    List RequestId → WordStream → Except Fault (List Request)
  | [], _ => .ok []
  | id :: rest, stream => do
    let (prompt, stream) ← randomPrompt top workload.promptLength stream
    return ⟨id, prompt, workload.maxNewTokens⟩ :: (← randomRequests workload top rest stream)

/-- Whether the lists of a synthetic workload can be addressed: a request takes 48 bytes and a token
of a prompt 4. -/
def WorkloadSettings.fitsMemory (workload : WorkloadSettings) : Bool :=
  Size.addressable workload.numRequests 48 &&
    (workload.numRequests = 0 || Size.addressable workload.promptLength 4)

/-- Prompts of random ids inside the vocabulary. A vocabulary of fewer than two tokens counts as
two, and its size is cut to 32 bits. -/
def syntheticRequests (workload : WorkloadSettings) (vocabSize : Nat) (seed : UInt64)
    (idOf : Nat → RequestId) : Except Fault (List Request) :=
  if workload.fitsMemory then
    let ids := (List.range workload.numRequests).map idOf
    randomRequests workload (max vocabSize 2 % 0x100000000) ids (.ofSeed seed)
  else .error (.defect .capacity)

end SlotServe
