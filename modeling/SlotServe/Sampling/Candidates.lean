import SlotServe.Sampling.Softmax
/-! The tokens that may be drawn from a row of scores. Temperature scales the row; a limit on the
rank and a limit on the mass then strike out all but the likeliest tokens. The log probabilities
that are reported are those of the scaled row before anything is struck out. -/
namespace SlotServe.Sampling

structure Parameters where
  /-- Divides the scores. Next to nothing selects the likeliest token. -/
  temperature : Float32 := 1
  /-- The mass that is kept. One, and nothing, disable the limit. -/
  topP : Float32 := 1
  /-- The ranks that are kept. Zero disables the limit. -/
  topK : Nat := 0
  seed : Option UInt64 := none

namespace Parameters

def greedy : Parameters := { temperature := 0 }

-- One millionth, as near as 32 bits come to it.
def greedyBelow : Float32 := Float32.ofBits 0x358637BD

def isGreedy (parameters : Parameters) : Bool := parameters.temperature < greedyBelow

end Parameters

def rankDescending (weights : List Float32) : List Nat :=
  (weights.zipIdx.mergeSort fun left right =>
    Binary32.place right.1 ≤ Binary32.place left.1).map (·.2)

def keepOnly (kept : List Nat) (weights : List Float32) : List Float32 :=
  weights.zipIdx.map fun weight => if kept.contains weight.2 then weight.1 else 0

def withinRank (topK : Nat) (ranked : List Nat) : List Nat :=
  if 0 < topK ∧ topK < ranked.length then ranked.take topK else ranked

def nucleusSize (limit : Float32) : Float32 → List Float32 → Nat
  | _, [] => 0
  | mass, weight :: rest =>
    -- The weight that reaches the limit is kept.
    if limit ≤ mass then 0 else nucleusSize limit (mass + weight) rest + 1

def withinMass (topP : Float32) (ranked : List Nat) (weights : List Float32) : List Nat :=
  if 0 < topP && topP < 1 then
    ranked.take (nucleusSize topP 0 (ranked.map fun position => weights.getD position 0))
  else ranked

structure Candidates where
  logProbs : List Float32
  /-- Not normalised; zero for a token that is struck out. -/
  weights : List Float32

namespace Candidates

def ofBest (row : List Float32) : Candidates :=
  ⟨logSoftmax row, keepOnly ((rankDescending row).take 1) (row.map fun _ => 1)⟩

def ofRow (row : List Float32) (parameters : Parameters) : Candidates :=
  if parameters.isGreedy then ofBest row
  else
    let logProbs := logSoftmax (row.map (· / parameters.temperature))
    let weights := logProbs.map Binary32.exp
    -- Both limits go by these ranks; the mass is that of the weights that the first one left.
    let ranked := rankDescending weights
    let weights := keepOnly (withinRank parameters.topK ranked) weights
    ⟨logProbs, keepOnly (withinMass parameters.topP ranked weights) weights⟩

def support (candidates : Candidates) : Nat := candidates.weights.countP (0 < ·)

def logProb (candidates : Candidates) (token : UInt32) : Float32 :=
  candidates.logProbs.getD token.toNat Binary32.negativeInfinity

end Candidates

end SlotServe.Sampling
