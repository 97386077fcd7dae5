import SlotServe.Fault
import SlotServe.Random.Words
import SlotServe.Sampling.Candidates
import SlotServe.Size
/-! Draws from the candidates of a row. One random word is taken for each draw. -/
namespace SlotServe.Sampling

open SlotServe.Random (WordStream)

structure Draw where
  token : UInt32
  /-- Under the scaled row, before any token was struck out. -/
  logProb : Float32

/-- Walk the weights until they use up `target`. Weights that are not positive are passed over; past
the last weight the answer is the last position that was not, `found` at the start. -/
def landing (target : Float32) (found place : Nat) : List Float32 → Nat
  | [] => found
  | weight :: rest =>
    if weight ≤ 0 then landing target found (place + 1) rest
    else if target < weight then place
    else landing (target - weight) place (place + 1) rest

namespace Candidates

def draw (candidates : Candidates) (stream : WordStream) : Draw × WordStream :=
  let (unit, stream) := stream.nextUnit
  let target := unit * sum candidates.weights
  let token := UInt32.ofNat (landing target 0 0 candidates.weights)
  (⟨token, candidates.logProb token⟩, stream)

def drawMany (candidates : Candidates) : Nat → WordStream → List Draw × WordStream
  | 0, stream => ([], stream)
  | count + 1, stream =>
    let (first, stream) := candidates.draw stream
    let (rest, stream) := candidates.drawMany count stream
    (first :: rest, stream)

def draws (candidates : Candidates) (count : Nat) (stream : WordStream) :
    Except Defect (List Draw × WordStream) :=
  -- A draw takes 8 bytes.
  if Size.addressable count 8 then .ok (candidates.drawMany count stream) else .error .capacity

end Candidates

end SlotServe.Sampling
