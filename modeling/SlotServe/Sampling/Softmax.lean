import SlotServe.Binary32.Exponential
import SlotServe.Tensor.Choice
import SlotServe.Tensor.Convert
/-! Log probabilities of a row of scores, and the choice of tokens for all rows of a tensor of scores. Sums
run from left to right. -/
namespace SlotServe.Sampling

def largest (row : List Float32) : Float32 :=
  -- What is no number is passed over.
  row.foldl (fun best score => if best < score then score else best) Binary32.negativeInfinity

def sum (row : List Float32) : Float32 := row.foldl (· + ·) 0

def logTotal (row : List Float32) : Float32 :=
  let top := largest row
  top + Binary32.log (sum (row.map fun score => Binary32.exp (score - top)))

def logSoftmax (row : List Float32) : List Float32 :=
  let total := logTotal row
  row.map (· - total)

def greedyTokens (scores : Tensor) : Except TensorFault Tensor := scores.choose .largest

def tokenLogProb (row : List UInt32) (token : UInt32) : Float32 :=
  let scores := row.map Float32.ofBits
  match scores[token.toNat]? with
  | some score => score - logTotal scores
  | none => Binary32.negativeInfinity

theorem tokenLogProb_eq (row : List UInt32) (token : UInt32) : tokenLogProb row token =
    (logSoftmax (row.map Float32.ofBits)).getD token.toNat Binary32.negativeInfinity := by
  unfold tokenLogProb
  generalize row.map Float32.ofBits = scores
  cases found : scores[token.toNat]? <;> simp [logSoftmax, List.getD, found]

def tokenLogProbs (scores : Tensor) (tokens : List UInt32) : Except TensorFault (List Float32) := do
  let rows ← scores.toF32.rowsF32
  return List.zipWith tokenLogProb rows tokens

end SlotServe.Sampling
